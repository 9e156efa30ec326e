import CellFlow.Text.Search

/-!
Names of colors as people gave them in a survey, as numbers of six hexadecimal digits. In
the color of a shape they stand behind a prefix.
-/

set_option autoImplicit false

namespace CellFlow

def surveyColorsAC : List (String × Nat) :=
  [("acid green", 0x8ffe09), ("adobe", 0xbd6c48), ("algae", 0x54ac68), ("algae green", 0x21c36f),
   ("almost black", 0x070d0d), ("amber", 0xfeb308), ("amethyst", 0x9b5fc0), ("apple", 0x6ecb3c),
   ("apple green", 0x76cd26), ("apricot", 0xffb16d), ("aqua", 0x13eac9), ("aqua blue", 0x02d8e9),
   ("aqua green", 0x12e193), ("aqua marine", 0x2ee8bb), ("aquamarine", 0x04d8b2),
   ("army green", 0x4b5d16), ("asparagus", 0x77ab56), ("aubergine", 0x3d0734), ("auburn", 0x9a3001),
   ("avocado", 0x90b134), ("avocado green", 0x87a922), ("azul", 0x1d5dec), ("azure", 0x069af3),
   ("baby blue", 0xa2cffe), ("baby green", 0x8cff9e), ("baby pink", 0xffb7ce),
   ("baby poo", 0xab9004), ("baby poop", 0x937c00), ("baby poop green", 0x8f9805),
   ("baby puke green", 0xb6c406), ("baby purple", 0xca9bf7), ("baby shit brown", 0xad900d),
   ("baby shit green", 0x889717), ("banana", 0xffff7e), ("banana yellow", 0xfafe4b),
   ("barbie pink", 0xfe46a5), ("barf green", 0x94ac02), ("barney", 0xac1db8),
   ("barney purple", 0xa00498), ("battleship grey", 0x6b7c85), ("beige", 0xe6daa6),
   ("berry", 0x990f4b), ("bile", 0xb5c306), ("black", 0x000000), ("bland", 0xafa88b),
   ("blood", 0x770001), ("blood orange", 0xfe4b03), ("blood red", 0x980002), ("blue", 0x0343df),
   ("blue blue", 0x2242c7), ("blue green", 0x137e6d), ("blue grey", 0x607c8e),
   ("blue purple", 0x5729ce), ("blue violet", 0x5d06e9), ("blue with a hint of purple", 0x533cc6),
   ("blue/green", 0x0f9b8e), ("blue/grey", 0x758da3), ("blue/purple", 0x5a06ef),
   ("blueberry", 0x464196), ("bluegreen", 0x017a79), ("bluegrey", 0x85a3b2),
   ("bluey green", 0x2bb179), ("bluey grey", 0x89a0b0), ("bluey purple", 0x6241c7),
   ("bluish", 0x2976bb), ("bluish green", 0x10a674), ("bluish grey", 0x748b97),
   ("bluish purple", 0x703be7), ("blurple", 0x5539cc), ("blush", 0xf29e8e),
   ("blush pink", 0xfe828c), ("booger", 0x9bb53c), ("booger green", 0x96b403),
   ("bordeaux", 0x7b002c), ("boring green", 0x63b365), ("bottle green", 0x044a05),
   ("brick", 0xa03623), ("brick orange", 0xc14a09), ("brick red", 0x8f1402),
   ("bright aqua", 0x0bf9ea), ("bright blue", 0x0165fc), ("bright cyan", 0x41fdfe),
   ("bright green", 0x01ff07), ("bright lavender", 0xc760ff), ("bright light blue", 0x26f7fd),
   ("bright light green", 0x2dfe54), ("bright lilac", 0xc95efb), ("bright lime", 0x87fd05),
   ("bright lime green", 0x65fe08), ("bright magenta", 0xff08e8), ("bright olive", 0x9cbb04),
   ("bright orange", 0xff5b00), ("bright pink", 0xfe01b1), ("bright purple", 0xbe03fd),
   ("bright red", 0xff000d), ("bright sea green", 0x05ffa6), ("bright sky blue", 0x02ccfe),
   ("bright teal", 0x01f9c6), ("bright turquoise", 0x0ffef9), ("bright violet", 0xad0afd),
   ("bright yellow", 0xfffd01), ("bright yellow green", 0x9dff00),
   ("british racing green", 0x05480d), ("bronze", 0xa87900), ("brown", 0x653700),
   ("brown green", 0x706c11), ("brown grey", 0x8d8468), ("brown orange", 0xb96902),
   ("brown red", 0x922b05), ("brown yellow", 0xb29705), ("brownish", 0x9c6d57),
   ("brownish green", 0x6a6e09), ("brownish grey", 0x86775f), ("brownish orange", 0xcb7723),
   ("brownish pink", 0xc27e79), ("brownish purple", 0x76424e), ("brownish red", 0x9e3623),
   ("brownish yellow", 0xc9b003), ("browny green", 0x6f6c0a), ("browny orange", 0xca6b02),
   ("bruise", 0x7e4071), ("bubble gum pink", 0xff69af), ("bubblegum", 0xff6cb5),
   ("bubblegum pink", 0xfe83cc), ("buff", 0xfef69e), ("burgundy", 0x610023),
   ("burnt orange", 0xc04e01), ("burnt red", 0x9f2305), ("burnt siena", 0xb75203),
   ("burnt sienna", 0xb04e0f), ("burnt umber", 0xa0450e), ("burnt yellow", 0xd5ab09),
   ("burple", 0x6832e3), ("butter", 0xffff81), ("butter yellow", 0xfffd74),
   ("butterscotch", 0xfdb147), ("cadet blue", 0x4e7496), ("camel", 0xc69f59), ("camo", 0x7f8f4e),
   ("camo green", 0x526525), ("camouflage green", 0x4b6113), ("canary", 0xfdff63),
   ("canary yellow", 0xfffe40), ("candy pink", 0xff63e9), ("caramel", 0xaf6f09),
   ("carmine", 0x9d0216), ("carnation", 0xfd798f), ("carnation pink", 0xff7fa7),
   ("carolina blue", 0x8ab8fe), ("celadon", 0xbefdb7), ("celery", 0xc1fd95), ("cement", 0xa5a391),
   ("cerise", 0xde0c62), ("cerulean", 0x0485d1), ("cerulean blue", 0x056eee),
   ("charcoal", 0x343837), ("charcoal grey", 0x3c4142), ("chartreuse", 0xc1f80a),
   ("cherry", 0xcf0234), ("cherry red", 0xf7022a), ("chestnut", 0x742802), ("chocolate", 0x3d1c02),
   ("chocolate brown", 0x411900), ("cinnamon", 0xac4f06), ("claret", 0x680018), ("clay", 0xb66a50),
   ("clay brown", 0xb2713d), ("clear blue", 0x247afd), ("cloudy blue", 0xacc2d9),
   ("cobalt", 0x1e488f), ("cobalt blue", 0x030aa7), ("cocoa", 0x875f42), ("coffee", 0xa6814c),
   ("cool blue", 0x4984b8), ("cool green", 0x33b864), ("cool grey", 0x95a3a6), ("copper", 0xb66325),
   ("coral", 0xfc5a50), ("coral pink", 0xff6163), ("cornflower", 0x6a79f7),
   ("cornflower blue", 0x5170d7), ("cranberry", 0x9e003a), ("cream", 0xffffc2), ("creme", 0xffffb6),
   ("crimson", 0x8c000f), ("custard", 0xfffd78), ("cyan", 0x00ffff)]

def surveyColorsDF : List (String × Nat) :=
  [("dandelion", 0xfedf08), ("dark", 0x1b2431), ("dark aqua", 0x05696b),
   ("dark aquamarine", 0x017371), ("dark beige", 0xac9362), ("dark blue", 0x00035b),
   ("dark blue green", 0x005249), ("dark blue grey", 0x1f3b4d), ("dark brown", 0x341c02),
   ("dark coral", 0xcf524e), ("dark cream", 0xfff39a), ("dark cyan", 0x0a888a),
   ("dark forest green", 0x002d04), ("dark fuchsia", 0x9d0759), ("dark gold", 0xb59410),
   ("dark grass green", 0x388004), ("dark green", 0x033500), ("dark green blue", 0x1f6357),
   ("dark grey", 0x363737), ("dark grey blue", 0x29465b), ("dark hot pink", 0xd90166),
   ("dark indigo", 0x1f0954), ("dark khaki", 0x9b8f55), ("dark lavender", 0x856798),
   ("dark lilac", 0x9c6da5), ("dark lime", 0x84b701), ("dark lime green", 0x7ebd01),
   ("dark magenta", 0x960056), ("dark maroon", 0x3c0008), ("dark mauve", 0x874c62),
   ("dark mint", 0x48c072), ("dark mint green", 0x20c073), ("dark mustard", 0xa88905),
   ("dark navy", 0x000435), ("dark navy blue", 0x00022e), ("dark olive", 0x373e02),
   ("dark olive green", 0x3c4d03), ("dark orange", 0xc65102), ("dark pastel green", 0x56ae57),
   ("dark peach", 0xde7e5d), ("dark periwinkle", 0x665fd1), ("dark pink", 0xcb416b),
   ("dark plum", 0x3f012c), ("dark purple", 0x35063e), ("dark red", 0x840000),
   ("dark rose", 0xb5485d), ("dark royal blue", 0x02066f), ("dark sage", 0x598556),
   ("dark salmon", 0xc85a53), ("dark sand", 0xa88f59), ("dark sea green", 0x11875d),
   ("dark seafoam", 0x1fb57a), ("dark seafoam green", 0x3eaf76), ("dark sky blue", 0x448ee4),
   ("dark slate blue", 0x214761), ("dark tan", 0xaf884a), ("dark taupe", 0x7f684e),
   ("dark teal", 0x014d4e), ("dark turquoise", 0x045c5a), ("dark violet", 0x34013f),
   ("dark yellow", 0xd5b60a), ("dark yellow green", 0x728f02), ("darkblue", 0x030764),
   ("darkgreen", 0x054907), ("darkish blue", 0x014182), ("darkish green", 0x287c37),
   ("darkish pink", 0xda467d), ("darkish purple", 0x751973), ("darkish red", 0xa90308),
   ("deep aqua", 0x08787f), ("deep blue", 0x040273), ("deep brown", 0x410200),
   ("deep green", 0x02590f), ("deep lavender", 0x8d5eb7), ("deep lilac", 0x966ebd),
   ("deep magenta", 0xa0025c), ("deep orange", 0xdc4d01), ("deep pink", 0xcb0162),
   ("deep purple", 0x36013f), ("deep red", 0x9a0200), ("deep rose", 0xc74767),
   ("deep sea blue", 0x015482), ("deep sky blue", 0x0d75f8), ("deep teal", 0x00555a),
   ("deep turquoise", 0x017374), ("deep violet", 0x490648), ("denim", 0x3b638c),
   ("denim blue", 0x3b5b92), ("desert", 0xccad60), ("diarrhea", 0x9f8303), ("dirt", 0x8a6e45),
   ("dirt brown", 0x836539), ("dirty blue", 0x3f829d), ("dirty green", 0x667e2c),
   ("dirty orange", 0xc87606), ("dirty pink", 0xca7b80), ("dirty purple", 0x734a65),
   ("dirty yellow", 0xcdc50a), ("dodger blue", 0x3e82fc), ("drab", 0x828344),
   ("drab green", 0x749551), ("dried blood", 0x4b0101), ("duck egg blue", 0xc3fbf4),
   ("dull blue", 0x49759c), ("dull brown", 0x876e4b), ("dull green", 0x74a662),
   ("dull orange", 0xd8863b), ("dull pink", 0xd5869d), ("dull purple", 0x84597e),
   ("dull red", 0xbb3f3f), ("dull teal", 0x5f9e8f), ("dull yellow", 0xeedc5b), ("dusk", 0x4e5481),
   ("dusk blue", 0x26538d), ("dusky blue", 0x475f94), ("dusky pink", 0xcc7a8b),
   ("dusky purple", 0x895b7b), ("dusky rose", 0xba6873), ("dust", 0xb2996e),
   ("dusty blue", 0x5a86ad), ("dusty green", 0x76a973), ("dusty lavender", 0xac86a8),
   ("dusty orange", 0xf0833a), ("dusty pink", 0xd58a94), ("dusty purple", 0x825f87),
   ("dusty red", 0xb9484e), ("dusty rose", 0xc0737a), ("dusty teal", 0x4c9085), ("earth", 0xa2653e),
   ("easter green", 0x8cfd7e), ("easter purple", 0xc071fe), ("ecru", 0xfeffca),
   ("egg shell", 0xfffcc4), ("eggplant", 0x380835), ("eggplant purple", 0x430541),
   ("eggshell", 0xffffd4), ("eggshell blue", 0xc4fff7), ("electric blue", 0x0652ff),
   ("electric green", 0x21fc0d), ("electric lime", 0xa8ff04), ("electric pink", 0xff0490),
   ("electric purple", 0xaa23ff), ("emerald", 0x01a049), ("emerald green", 0x028f1e),
   ("evergreen", 0x05472a), ("faded blue", 0x658cbb), ("faded green", 0x7bb274),
   ("faded orange", 0xf0944d), ("faded pink", 0xde9dac), ("faded purple", 0x916e99),
   ("faded red", 0xd3494e), ("faded yellow", 0xfeff7f), ("fawn", 0xcfaf7b), ("fern", 0x63a950),
   ("fern green", 0x548d44), ("fire engine red", 0xfe0002), ("flat blue", 0x3c73a8),
   ("flat green", 0x699d4c), ("fluorescent green", 0x08ff08), ("fluro green", 0x0aff02),
   ("foam green", 0x90fda9), ("forest", 0x0b5509), ("forest green", 0x06470c),
   ("forrest green", 0x154406), ("french blue", 0x436bad), ("fresh green", 0x69d84f),
   ("frog green", 0x58bc08), ("fuchsia", 0xed0dd9)]

def surveyColorsGL : List (String × Nat) :=
  [("gold", 0xdbb40c), ("golden", 0xf5bf03), ("golden brown", 0xb27a01), ("golden rod", 0xf9bc08),
   ("golden yellow", 0xfec615), ("goldenrod", 0xfac205), ("grape", 0x6c3461),
   ("grape purple", 0x5d1451), ("grapefruit", 0xfd5956), ("grass", 0x5cac2d),
   ("grass green", 0x3f9b0b), ("grassy green", 0x419c03), ("green", 0x15b01a),
   ("green apple", 0x5edc1f), ("green blue", 0x06b48b), ("green brown", 0x544e03),
   ("green grey", 0x77926f), ("green teal", 0x0cb577), ("green yellow", 0xc9ff27),
   ("green/blue", 0x01c08d), ("green/yellow", 0xb5ce08), ("greenblue", 0x23c48b),
   ("greenish", 0x40a368), ("greenish beige", 0xc9d179), ("greenish blue", 0x0b8b87),
   ("greenish brown", 0x696112), ("greenish cyan", 0x2afeb7), ("greenish grey", 0x96ae8d),
   ("greenish tan", 0xbccb7a), ("greenish teal", 0x32bf84), ("greenish turquoise", 0x00fbb0),
   ("greenish yellow", 0xcdfd02), ("greeny blue", 0x42b395), ("greeny brown", 0x696006),
   ("greeny grey", 0x7ea07a), ("greeny yellow", 0xc6f808), ("grey", 0x929591),
   ("grey blue", 0x6b8ba4), ("grey brown", 0x7f7053), ("grey green", 0x789b73),
   ("grey pink", 0xc3909b), ("grey purple", 0x826d8c), ("grey teal", 0x5e9b8a),
   ("grey/blue", 0x647d8e), ("grey/green", 0x86a17d), ("greyblue", 0x77a1b5), ("greyish", 0xa8a495),
   ("greyish blue", 0x5e819d), ("greyish brown", 0x7a6a4f), ("greyish green", 0x82a67d),
   ("greyish pink", 0xc88d94), ("greyish purple", 0x887191), ("greyish teal", 0x719f91),
   ("gross green", 0xa0bf16), ("gunmetal", 0x536267), ("hazel", 0x8e7618), ("heather", 0xa484ac),
   ("heliotrope", 0xd94ff5), ("highlighter green", 0x1bfc06), ("hospital green", 0x9be5aa),
   ("hot green", 0x25ff29), ("hot magenta", 0xf504c9), ("hot pink", 0xff028d),
   ("hot purple", 0xcb00f5), ("hunter green", 0x0b4008), ("ice", 0xd6fffa), ("ice blue", 0xd7fffe),
   ("icky green", 0x8fae22), ("indian red", 0x850e04), ("indigo", 0x380282),
   ("indigo blue", 0x3a18b1), ("iris", 0x6258c4), ("irish green", 0x019529), ("ivory", 0xffffcb),
   ("jade", 0x1fa774), ("jade green", 0x2baf6a), ("jungle green", 0x048243),
   ("kelley green", 0x009337), ("kelly green", 0x02ab2e), ("kermit green", 0x5cb200),
   ("key lime", 0xaeff6e), ("khaki", 0xaaa662), ("khaki green", 0x728639), ("kiwi", 0x9cef43),
   ("kiwi green", 0x8ee53f), ("lavender", 0xc79fef), ("lavender blue", 0x8b88f8),
   ("lavender pink", 0xdd85d7), ("lawn green", 0x4da409), ("leaf", 0x71aa34),
   ("leaf green", 0x5ca904), ("leafy green", 0x51b73b), ("leather", 0xac7434), ("lemon", 0xfdff52),
   ("lemon green", 0xadf802), ("lemon lime", 0xbffe28), ("lemon yellow", 0xfdff38),
   ("lichen", 0x8fb67b), ("light aqua", 0x8cffdb), ("light aquamarine", 0x7bfdc7),
   ("light beige", 0xfffeb6), ("light blue", 0x95d0fc), ("light blue green", 0x7efbb3),
   ("light blue grey", 0xb7c9e2), ("light bluish green", 0x76fda8),
   ("light bright green", 0x53fe5c), ("light brown", 0xad8150), ("light burgundy", 0xa8415b),
   ("light cyan", 0xacfffc), ("light eggplant", 0x894585), ("light forest green", 0x4f9153),
   ("light gold", 0xfddc5c), ("light grass green", 0x9af764), ("light green", 0x96f97b),
   ("light green blue", 0x56fca2), ("light greenish blue", 0x63f7b4), ("light grey", 0xd8dcd6),
   ("light grey blue", 0x9dbcd4), ("light grey green", 0xb7e1a1), ("light indigo", 0x6d5acf),
   ("light khaki", 0xe6f2a2), ("light lavendar", 0xefc0fe), ("light lavender", 0xdfc5fe),
   ("light light blue", 0xcafffb), ("light light green", 0xc8ffb0), ("light lilac", 0xedc8ff),
   ("light lime", 0xaefd6c), ("light lime green", 0xb9ff66), ("light magenta", 0xfa5ff7),
   ("light maroon", 0xa24857), ("light mauve", 0xc292a1), ("light mint", 0xb6ffbb),
   ("light mint green", 0xa6fbb2), ("light moss green", 0xa6c875), ("light mustard", 0xf7d560),
   ("light navy", 0x155084), ("light navy blue", 0x2e5a88), ("light neon green", 0x4efd54),
   ("light olive", 0xacbf69), ("light olive green", 0xa4be5c), ("light orange", 0xfdaa48),
   ("light pastel green", 0xb2fba5), ("light pea green", 0xc4fe82), ("light peach", 0xffd8b1),
   ("light periwinkle", 0xc1c6fc), ("light pink", 0xffd1df), ("light plum", 0x9d5783),
   ("light purple", 0xbf77f6), ("light red", 0xff474c), ("light rose", 0xffc5cb),
   ("light royal blue", 0x3a2efe), ("light sage", 0xbcecac), ("light salmon", 0xfea993),
   ("light sea green", 0x98f6b0), ("light seafoam", 0xa0febf), ("light seafoam green", 0xa7ffb5),
   ("light sky blue", 0xc6fcff), ("light tan", 0xfbeeac), ("light teal", 0x90e4c1),
   ("light turquoise", 0x7ef4cc), ("light urple", 0xb36ff6), ("light violet", 0xd6b4fc),
   ("light yellow", 0xfffe7a), ("light yellow green", 0xccfd7f),
   ("light yellowish green", 0xc2ff89), ("lightblue", 0x7bc8f6), ("lighter green", 0x75fd63),
   ("lighter purple", 0xa55af4), ("lightgreen", 0x76ff7b), ("lightish blue", 0x3d7afd),
   ("lightish green", 0x61e160), ("lightish purple", 0xa552e6), ("lightish red", 0xfe2f4a),
   ("lilac", 0xcea2fd), ("liliac", 0xc48efd), ("lime", 0xaaff32), ("lime green", 0x89fe05),
   ("lime yellow", 0xd0fe1d), ("lipstick", 0xd5174e), ("lipstick red", 0xc0022f)]

def surveyColorsMP : List (String × Nat) :=
  [("macaroni and cheese", 0xefb435), ("magenta", 0xc20078), ("mahogany", 0x4a0100),
   ("maize", 0xf4d054), ("mango", 0xffa62b), ("manilla", 0xfffa86), ("marigold", 0xfcc006),
   ("marine", 0x042e60), ("marine blue", 0x01386a), ("maroon", 0x650021), ("mauve", 0xae7181),
   ("medium blue", 0x2c6fbb), ("medium brown", 0x7f5112), ("medium green", 0x39ad48),
   ("medium grey", 0x7d7f7c), ("medium pink", 0xf36196), ("medium purple", 0x9e43a2),
   ("melon", 0xff7855), ("merlot", 0x730039), ("metallic blue", 0x4f738e), ("mid blue", 0x276ab3),
   ("mid green", 0x50a747), ("midnight", 0x03012d), ("midnight blue", 0x020035),
   ("midnight purple", 0x280137), ("military green", 0x667c3e), ("milk chocolate", 0x7f4e1e),
   ("mint", 0x9ffeb0), ("mint green", 0x8fff9f), ("minty green", 0x0bf77d), ("mocha", 0x9d7651),
   ("moss", 0x769958), ("moss green", 0x658b38), ("mossy green", 0x638b27), ("mud", 0x735c12),
   ("mud brown", 0x60460f), ("mud green", 0x606602), ("muddy brown", 0x886806),
   ("muddy green", 0x657432), ("muddy yellow", 0xbfac05), ("mulberry", 0x920a4e),
   ("murky green", 0x6c7a0e), ("mushroom", 0xba9e88), ("mustard", 0xceb301),
   ("mustard brown", 0xac7e04), ("mustard green", 0xa8b504), ("mustard yellow", 0xd2bd0a),
   ("muted blue", 0x3b719f), ("muted green", 0x5fa052), ("muted pink", 0xd1768f),
   ("muted purple", 0x805b87), ("nasty green", 0x70b23f), ("navy", 0x01153e),
   ("navy blue", 0x001146), ("navy green", 0x35530a), ("neon blue", 0x04d9ff),
   ("neon green", 0x0cff0c), ("neon pink", 0xfe019a), ("neon purple", 0xbc13fe),
   ("neon red", 0xff073a), ("neon yellow", 0xcfff04), ("nice blue", 0x107ab0),
   ("night blue", 0x040348), ("ocean", 0x017b92), ("ocean blue", 0x03719c),
   ("ocean green", 0x3d9973), ("ocher", 0xbf9b0c), ("ochre", 0xbf9005), ("ocre", 0xc69c04),
   ("off blue", 0x5684ae), ("off green", 0x6ba353), ("off white", 0xffffe4),
   ("off yellow", 0xf1f33f), ("old pink", 0xc77986), ("old rose", 0xc87f89), ("olive", 0x6e750e),
   ("olive brown", 0x645403), ("olive drab", 0x6f7632), ("olive green", 0x677a04),
   ("olive yellow", 0xc2b709), ("orange", 0xf97306), ("orange brown", 0xbe6400),
   ("orange pink", 0xff6f52), ("orange red", 0xfd411e), ("orange yellow", 0xffad01),
   ("orangeish", 0xfd8d49), ("orangered", 0xfe420f), ("orangey brown", 0xb16002),
   ("orangey red", 0xfa4224), ("orangey yellow", 0xfdb915), ("orangish", 0xfc824a),
   ("orangish brown", 0xb25f03), ("orangish red", 0xf43605), ("orchid", 0xc875c4),
   ("pale", 0xfff9d0), ("pale aqua", 0xb8ffeb), ("pale blue", 0xd0fefe), ("pale brown", 0xb1916e),
   ("pale cyan", 0xb7fffa), ("pale gold", 0xfdde6c), ("pale green", 0xc7fdb5),
   ("pale grey", 0xfdfdfe), ("pale lavender", 0xeecffe), ("pale light green", 0xb1fc99),
   ("pale lilac", 0xe4cbff), ("pale lime", 0xbefd73), ("pale lime green", 0xb1ff65),
   ("pale magenta", 0xd767ad), ("pale mauve", 0xfed0fc), ("pale olive", 0xb9cc81),
   ("pale olive green", 0xb1d27b), ("pale orange", 0xffa756), ("pale peach", 0xffe5ad),
   ("pale pink", 0xffcfdc), ("pale purple", 0xb790d4), ("pale red", 0xd9544d),
   ("pale rose", 0xfdc1c5), ("pale salmon", 0xffb19a), ("pale sky blue", 0xbdf6fe),
   ("pale teal", 0x82cbb2), ("pale turquoise", 0xa5fbd5), ("pale violet", 0xceaefa),
   ("pale yellow", 0xffff84), ("parchment", 0xfefcaf), ("pastel blue", 0xa2bffe),
   ("pastel green", 0xb0ff9d), ("pastel orange", 0xff964f), ("pastel pink", 0xffbacd),
   ("pastel purple", 0xcaa0ff), ("pastel red", 0xdb5856), ("pastel yellow", 0xfffe71),
   ("pea", 0xa4bf20), ("pea green", 0x8eab12), ("pea soup", 0x929901), ("pea soup green", 0x94a617),
   ("peach", 0xffb07c), ("peachy pink", 0xff9a8a), ("peacock blue", 0x016795), ("pear", 0xcbf85f),
   ("periwinkle", 0x8e82fe), ("periwinkle blue", 0x8f99fb), ("perrywinkle", 0x8f8ce7),
   ("petrol", 0x005f6a), ("pig pink", 0xe78ea5), ("pine", 0x2b5d34), ("pine green", 0x0a481e),
   ("pink", 0xff81c0), ("pink purple", 0xdb4bda), ("pink red", 0xf5054f), ("pink/purple", 0xef1de7),
   ("pinkish", 0xd46a7e), ("pinkish brown", 0xb17261), ("pinkish grey", 0xc8aca9),
   ("pinkish orange", 0xff724c), ("pinkish purple", 0xd648d7), ("pinkish red", 0xf10c45),
   ("pinkish tan", 0xd99b82), ("pinky", 0xfc86aa), ("pinky purple", 0xc94cbe),
   ("pinky red", 0xfc2647), ("piss yellow", 0xddd618), ("pistachio", 0xc0fa8b), ("plum", 0x580f41),
   ("plum purple", 0x4e0550), ("poison green", 0x40fd14), ("poo", 0x8f7303),
   ("poo brown", 0x885f01), ("poop", 0x7f5e00), ("poop brown", 0x7a5901), ("poop green", 0x6f7c00),
   ("powder blue", 0xb1d1fc), ("powder pink", 0xffb2d0), ("primary blue", 0x0804f9),
   ("prussian blue", 0x004577), ("puce", 0xa57e52), ("puke", 0xa5a502), ("puke brown", 0x947706),
   ("puke green", 0x9aae07), ("puke yellow", 0xc2be0e), ("pumpkin", 0xe17701),
   ("pumpkin orange", 0xfb7d07), ("pure blue", 0x0203e2), ("purple", 0x7e1e9c),
   ("purple blue", 0x632de9), ("purple brown", 0x673a3f), ("purple grey", 0x866f85),
   ("purple pink", 0xe03fd8), ("purple red", 0x990147), ("purple/blue", 0x5d21d0),
   ("purple/pink", 0xd725de), ("purpleish", 0x98568d), ("purpleish blue", 0x6140ef),
   ("purpleish pink", 0xdf4ec8), ("purpley", 0x8756e4), ("purpley blue", 0x5f34e7),
   ("purpley grey", 0x947e94), ("purpley pink", 0xc83cb9), ("purplish", 0x94568c),
   ("purplish blue", 0x601ef9), ("purplish brown", 0x6b4247), ("purplish grey", 0x7a687f),
   ("purplish pink", 0xce5dae), ("purplish red", 0xb0054b), ("purply", 0x983fb2),
   ("purply blue", 0x661aee), ("purply pink", 0xf075e6), ("putty", 0xbeae8a)]

def surveyColorsQZ : List (String × Nat) :=
  [("racing green", 0x014600), ("radioactive green", 0x2cfa1f), ("raspberry", 0xb00149),
   ("raw sienna", 0x9a6200), ("raw umber", 0xa75e09), ("really light blue", 0xd4ffff),
   ("red", 0xe50000), ("red brown", 0x8b2e16), ("red orange", 0xfd3c06), ("red pink", 0xfa2a55),
   ("red purple", 0x820747), ("red violet", 0x9e0168), ("red wine", 0x8c0034),
   ("reddish", 0xc44240), ("reddish brown", 0x7f2b0a), ("reddish grey", 0x997570),
   ("reddish orange", 0xf8481c), ("reddish pink", 0xfe2c54), ("reddish purple", 0x910951),
   ("reddy brown", 0x6e1005), ("rich blue", 0x021bf9), ("rich purple", 0x720058),
   ("robin egg blue", 0x8af1fe), ("robin's egg", 0x6dedfd), ("robin's egg blue", 0x98eff9),
   ("rosa", 0xfe86a4), ("rose", 0xcf6275), ("rose pink", 0xf7879a), ("rose red", 0xbe013c),
   ("rosy pink", 0xf6688e), ("rouge", 0xab1239), ("royal", 0x0c1793), ("royal blue", 0x0504aa),
   ("royal purple", 0x4b006e), ("ruby", 0xca0147), ("russet", 0xa13905), ("rust", 0xa83c09),
   ("rust brown", 0x8b3103), ("rust orange", 0xc45508), ("rust red", 0xaa2704),
   ("rusty orange", 0xcd5909), ("rusty red", 0xaf2f0d), ("saffron", 0xfeb209), ("sage", 0x87ae73),
   ("sage green", 0x88b378), ("salmon", 0xff796c), ("salmon pink", 0xfe7b7c), ("sand", 0xe2ca76),
   ("sand brown", 0xcba560), ("sand yellow", 0xfce166), ("sandstone", 0xc9ae74),
   ("sandy", 0xf1da7a), ("sandy brown", 0xc4a661), ("sandy yellow", 0xfdee73),
   ("sap green", 0x5c8b15), ("sapphire", 0x2138ab), ("scarlet", 0xbe0119), ("sea", 0x3c9992),
   ("sea blue", 0x047495), ("sea green", 0x53fca1), ("seafoam", 0x80f9ad),
   ("seafoam blue", 0x78d1b6), ("seafoam green", 0x7af9ab), ("seaweed", 0x18d17b),
   ("seaweed green", 0x35ad6b), ("sepia", 0x985e2b), ("shamrock", 0x01b44c),
   ("shamrock green", 0x02c14d), ("shit", 0x7f5f00), ("shit brown", 0x7b5804),
   ("shit green", 0x758000), ("shocking pink", 0xfe02a2), ("sick green", 0x9db92c),
   ("sickly green", 0x94b21c), ("sickly yellow", 0xd0e429), ("sienna", 0xa9561e),
   ("silver", 0xc5c9c7), ("sky", 0x82cafc), ("sky blue", 0x75bbfd), ("slate", 0x516572),
   ("slate blue", 0x5b7c99), ("slate green", 0x658d6d), ("slate grey", 0x59656d),
   ("slime green", 0x99cc04), ("snot", 0xacbb0d), ("snot green", 0x9dc100), ("soft blue", 0x6488ea),
   ("soft green", 0x6fc276), ("soft pink", 0xfdb0c0), ("soft purple", 0xa66fb5),
   ("spearmint", 0x1ef876), ("spring green", 0xa9f971), ("spruce", 0x0a5f38), ("squash", 0xf2ab15),
   ("steel", 0x738595), ("steel blue", 0x5a7d9a), ("steel grey", 0x6f828a), ("stone", 0xada587),
   ("stormy blue", 0x507b9c), ("straw", 0xfcf679), ("strawberry", 0xfb2943),
   ("strong blue", 0x0c06f7), ("strong pink", 0xff0789), ("sun yellow", 0xffdf22),
   ("sunflower", 0xffc512), ("sunflower yellow", 0xffda03), ("sunny yellow", 0xfff917),
   ("sunshine yellow", 0xfffd37), ("swamp", 0x698339), ("swamp green", 0x748500), ("tan", 0xd1b26f),
   ("tan brown", 0xab7e4c), ("tan green", 0xa9be70), ("tangerine", 0xff9408), ("taupe", 0xb9a281),
   ("tea", 0x65ab7c), ("tea green", 0xbdf8a3), ("teal", 0x029386), ("teal blue", 0x01889f),
   ("teal green", 0x25a36f), ("tealish", 0x24bca8), ("tealish green", 0x0cdc73),
   ("terra cotta", 0xc9643b), ("terracota", 0xcb6843), ("terracotta", 0xca6641),
   ("tiffany blue", 0x7bf2da), ("tomato", 0xef4026), ("tomato red", 0xec2d01), ("topaz", 0x13bbaf),
   ("toupe", 0xc7ac7d), ("toxic green", 0x61de2a), ("tree green", 0x2a7e19),
   ("true blue", 0x010fcc), ("true green", 0x089404), ("turquoise", 0x06c2ac),
   ("turquoise blue", 0x06b1c4), ("turquoise green", 0x04f489), ("turtle green", 0x75b84f),
   ("twilight", 0x4e518b), ("twilight blue", 0x0a437a), ("ugly blue", 0x31668a),
   ("ugly brown", 0x7d7103), ("ugly green", 0x7a9703), ("ugly pink", 0xcd7584),
   ("ugly purple", 0xa442a0), ("ugly yellow", 0xd0c101), ("ultramarine", 0x2000b1),
   ("ultramarine blue", 0x1805db), ("umber", 0xb26400), ("velvet", 0x750851),
   ("vermillion", 0xf4320c), ("very dark blue", 0x000133), ("very dark brown", 0x1d0200),
   ("very dark green", 0x062e03), ("very dark purple", 0x2a0134), ("very light blue", 0xd5ffff),
   ("very light brown", 0xd3b683), ("very light green", 0xd1ffbd), ("very light pink", 0xfff4f2),
   ("very light purple", 0xf6cefc), ("very pale blue", 0xd6fffe), ("very pale green", 0xcffdbc),
   ("vibrant blue", 0x0339f8), ("vibrant green", 0x0add08), ("vibrant purple", 0xad03de),
   ("violet", 0x9a0eea), ("violet blue", 0x510ac9), ("violet pink", 0xfb5ffc),
   ("violet red", 0xa50055), ("viridian", 0x1e9167), ("vivid blue", 0x152eff),
   ("vivid green", 0x2fef10), ("vivid purple", 0x9900fa), ("vomit", 0xa2a415),
   ("vomit green", 0x89a203), ("vomit yellow", 0xc7c10c), ("warm blue", 0x4b57db),
   ("warm brown", 0x964e02), ("warm grey", 0x978a84), ("warm pink", 0xfb5581),
   ("warm purple", 0x952e8f), ("washed out green", 0xbcf5a6), ("water blue", 0x0e87cc),
   ("watermelon", 0xfd4659), ("weird green", 0x3ae57f), ("wheat", 0xfbdd7e), ("white", 0xffffff),
   ("windows blue", 0x3778bf), ("wine", 0x80013f), ("wine red", 0x7b0323),
   ("wintergreen", 0x20f986), ("wisteria", 0xa87dc2), ("yellow", 0xffff14),
   ("yellow brown", 0xb79400), ("yellow green", 0xc0fb2d), ("yellow ochre", 0xcb9d06),
   ("yellow orange", 0xfcb001), ("yellow tan", 0xffe36e), ("yellow/green", 0xc8fd3d),
   ("yellowgreen", 0xbbf90f), ("yellowish", 0xfaee66), ("yellowish brown", 0x9b7a01),
   ("yellowish green", 0xb0dd16), ("yellowish orange", 0xffab0f), ("yellowish tan", 0xfcfc81),
   ("yellowy brown", 0xae8b0c), ("yellowy green", 0xbff128)]

def surveyColors : List (String × Nat) :=
  surveyColorsAC ++ surveyColorsDF ++ surveyColorsGL ++ surveyColorsMP ++ surveyColorsQZ

def surveyPrefix : String := "xkcd:"

def surveySpelling (name : List Char) : List Char :=
  match Text.splitFirst? "gray".toList name with
  | some (before, behind) => before ++ "grey".toList ++ behind
  | none => name

def surveyColor? (s : String) : Option Nat :=
  if surveyPrefix.toList.isPrefixOf s.toList then
    let name := s.toList.drop surveyPrefix.length
    surveyColors.lookup (String.ofList name) <|>
      surveyColors.lookup (String.ofList (surveySpelling name))
  else none

end CellFlow
