import CellFlow.Files.Tree
import CellFlow.Picture.Raster

/-!
Rasters as portable network graphics: a signature, then chunks, each with its length and a
check value. The dots are stored as they are, in blocks that are not compressed.
-/

set_option autoImplicit false

namespace CellFlow.Raster

def word (n : UInt32) : ByteArray :=
  ⟨#[(n >>> 24).toUInt8, (n >>> 16).toUInt8, (n >>> 8).toUInt8, n.toUInt8]⟩

def checkStep (n : UInt32) : UInt32 := if n &&& 1 = 1 then (n >>> 1) ^^^ 0xEDB88320 else n >>> 1

def checkTable : Array UInt32 :=
  ((List.range 256).map fun n => (List.range 8).foldl (fun c _ => checkStep c) n.toUInt32).toArray

def check (bytes : ByteArray) : UInt32 :=
  let c := bytes.foldl (fun (c : UInt32) b =>
    checkTable.getD ((c ^^^ b.toUInt32) &&& 0xFF).toNat 0 ^^^ (c >>> 8)) 0xFFFFFFFF
  c ^^^ 0xFFFFFFFF

def sums (bytes : ByteArray) : UInt32 :=
  let (a, b) := bytes.foldl (fun (p : UInt32 × UInt32) x =>
    let a := (p.1 + x.toUInt32) % 65521
    (a, (p.2 + a) % 65521)) (1, 0)
  b <<< 16 ||| a

def chunk (kind : String) (data : ByteArray) : ByteArray :=
  let body := kind.toUTF8 ++ data
  word data.size.toUInt32 ++ body ++ word (check body)

def blockSize : Nat := 65535

/-- A block with its length and the complement of its length, lowest byte first. -/
def block (isLast : Bool) (data : ByteArray) : ByteArray :=
  let n := data.size
  let m := blockSize - n
  (⟨#[if isLast then 1 else 0, n.toUInt8, (n / 256).toUInt8, m.toUInt8, (m / 256).toUInt8]⟩ :
    ByteArray) ++ data

def store (data : ByteArray) : ByteArray :=
  let count := (data.size + blockSize - 1) / blockSize
  let blocks := count.fold (fun i _ (out : ByteArray) =>
    out ++ block (i + 1 = count) (data.extract (i * blockSize) ((i + 1) * blockSize))) ⟨#[0x78, 0x01]⟩
  blocks ++ word (sums data)

/-- The rows, each behind a byte that says that it stands for itself. -/
def rows (r : Raster) : ByteArray :=
  r.height.fold (fun y _ (out : ByteArray) =>
    out.push 0 ++ r.bytes.extract (3 * y * r.width) (3 * (y + 1) * r.width))
    (ByteArray.emptyWithCapacity (r.bytes.size + r.height))

def heading (r : Raster) : ByteArray :=
  word r.width.toUInt32 ++ word r.height.toUInt32 ++ ⟨#[8, 2, 0, 0, 0]⟩

def encode (r : Raster) : ByteArray :=
  pictureSignature ++ chunk "IHDR" r.heading ++ chunk "IDAT" (store r.rows) ++
    chunk "IEND" ByteArray.empty

end CellFlow.Raster
