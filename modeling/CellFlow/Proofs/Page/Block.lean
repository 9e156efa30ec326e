import CellFlow.Proofs.Page.Items

/-!
Where the script of a page stands: before it come the lines of the header and the legend, which start
one script and end it, and behind it only the lines that close the page.
-/

set_option autoImplicit false

namespace CellFlow.Page

def unlines (ls : List String) : List Char := ls.flatMap fun l => l.toList ++ ['\n']

theorem unlines_append (ls ms : List String) : unlines (ls ++ ms) = unlines ls ++ unlines ms :=
  List.flatMap_append

theorem unlines_cons (l : String) (ls : List String) : unlines (l :: ls) = l.toList ++ '\n' :: unlines ls := by
  rw [unlines, List.flatMap_cons, List.append_assoc]
  rfl

theorem toList_intercalate_unlines (ls : List String) :
    ("\n".intercalate (ls ++ [""])).toList = unlines ls := by
  rw [String.toList_intercalate]
  induction ls with
  | nil => rfl
  | cons l ls ih =>
    rw [unlines, List.flatMap_cons, ← unlines, ← ih]
    cases ls with
    | nil => simp
    | cons m ls => simp [List.intercalate_cons_cons]

/-- Text outside of scripts that starts none, whatever number of scripts came before it. -/
def Quiet (n : Nat) (s : List Char) : Prop := s.foldl Scan.read ⟨false, 0, n⟩ = ⟨false, 0, n⟩

instance (n : Nat) (s : List Char) : Decidable (Quiet n s) :=
  inferInstanceAs (Decidable (s.foldl Scan.read ⟨false, 0, n⟩ = ⟨false, 0, n⟩))

namespace Quiet

variable {n : Nat} {a b : List Char}

theorem append (ha : Quiet n a) (hb : Quiet n b) : Quiet n (a ++ b) := by
  rw [Quiet, List.foldl_append, ha, hb]

theorem of_not_mem (h : '<' ∉ a) : Quiet n a := Scan.foldl_read_of_not_mem h n

theorem unlines {ls : List String} (h : ∀ l ∈ ls, Quiet n l.toList) : Quiet n (Page.unlines ls) := by
  induction ls with
  | nil => rfl
  | cons l ls ih =>
    rw [List.forall_mem_cons] at h
    rw [Page.unlines, List.flatMap_cons]
    exact (h.1.append (of_not_mem (by decide))).append (ih h.2)

end Quiet

/-! The fixed lines of a page. A fixed text is the same as the text of its letters, which are at hand
and need not be read back from it. -/

theorem lt_not_mem_ofList {s : List Char} (h : s.contains '<' = false) :
    '<' ∉ (String.ofList s).toList := by
  rw [String.toList_ofList]
  simpa using h

theorem quiet_ofList {n : Nat} {s : List Char} (h : Quiet n s) : Quiet n (String.ofList s).toList := by
  rwa [String.toList_ofList]

theorem lt_not_mem_append {s t : String} (hs : '<' ∉ s.toList) (ht : '<' ∉ t.toList) :
    '<' ∉ (s ++ t).toList := by
  rw [String.toList_append, List.mem_append, not_or]
  exact ⟨hs, ht⟩

theorem lt_not_mem_indent {ls : List String} (h : ∀ l ∈ ls, '<' ∉ l.toList) (n : Nat) :
    ∀ l ∈ indent n ls, '<' ∉ l.toList := by
  intro l hl
  obtain ⟨m, hm, rfl⟩ := List.mem_map.1 hl
  split
  · exact h m hm
  · rw [String.toList_append, String.toList_ofList, List.mem_append, not_or]
    exact ⟨by simp, h m hm⟩

theorem lt_not_mem_script : ∀ l ∈ script, '<' ∉ l.toList := by
  simp only [script, List.forall_mem_cons]
  repeat' refine And.intro (lt_not_mem_ofList (by decide)) ?_
  exact List.forall_mem_nil _

/-- The texts of a rule of the style sheet. -/
def StyleRule.texts : StyleRule → List String
  | .brief selector declarations | .spread selector declarations => selector :: declarations

theorem lt_not_mem_lines {rule : StyleRule} (h : ∀ t ∈ rule.texts, '<' ∉ t.toList) :
    ∀ l ∈ rule.lines, '<' ∉ l.toList := by
  cases rule with
  | brief selector declarations =>
    rw [StyleRule.texts, List.forall_mem_cons] at h
    have hjoin : '<' ∉ (String.join (declarations.map fun d => d ++ "; ")).toList := by
      rw [String.toList_join, List.mem_flatMap]
      rintro ⟨t, ht, hm⟩
      obtain ⟨d, hd, rfl⟩ := List.mem_map.1 ht
      exact lt_not_mem_append (h.2 d hd) (by decide) hm
    rw [StyleRule.lines, List.forall_mem_singleton]
    exact lt_not_mem_append (lt_not_mem_append (lt_not_mem_append h.1 (by decide)) hjoin) (by decide)
  | spread selector declarations =>
    rw [StyleRule.texts, List.forall_mem_cons] at h
    rw [StyleRule.lines, List.cons_append, List.forall_mem_cons, List.forall_mem_append,
      List.forall_mem_singleton]
    refine ⟨lt_not_mem_append h.1 (by decide), fun l hl => ?_, by decide⟩
    obtain ⟨d, hd, rfl⟩ := List.mem_map.1 hl
    exact lt_not_mem_append (lt_not_mem_append (by decide) (h.2 d hd)) (by decide)

theorem lt_not_mem_styles : ∀ rule ∈ styles, ∀ t ∈ rule.texts, '<' ∉ t.toList := by
  simp only [styles, List.forall_mem_cons, StyleRule.texts]
  repeat' apply And.intro
  all_goals first | exact List.forall_mem_nil _ | exact lt_not_mem_ofList (by decide)

theorem lt_not_mem_styleLines : ∀ l ∈ styleLines, '<' ∉ l.toList := by
  refine lt_not_mem_indent (fun l hl => ?_) 8
  obtain ⟨rule, hr, hl⟩ := List.mem_flatMap.1 hl
  exact lt_not_mem_lines (lt_not_mem_styles rule hr) l hl

/-- Lines with a text in them that starts no tag. -/
theorem quiet_enclosed {n : Nat} {before s after : String} (hb : Quiet n before.toList)
    (hs : '<' ∉ s.toList) (ha : Quiet n after.toList) : Quiet n (before ++ s ++ after).toList := by
  rw [String.toList_append, String.toList_append]
  exact (hb.append (.of_not_mem hs)).append ha

/-- The one script of the head starts and ends. -/
theorem scan_head : (unlines head).foldl Scan.read ⟨false, 0, 0⟩ = ⟨false, 0, 1⟩ := by
  have hhead : head = ["<!DOCTYPE html>", "<html>", "<head>",
      "    <title>Notebook Flow Graph - Interactive</title>", "    <meta charset=\"utf-8\" />",
      "    <meta name=\"viewport\" content=\"width=device-width, initial-scale=1\">"] ++
      (["    <script src=\"https://unpkg.com/vis-network@9.1.2/dist/vis-network.min.js\"></script>"] ++
      (["    <style>"] ++ styleLines ++ ["    </style>", "</head>"])) := rfl
  have hscript : ∀ s : List Char, s.foldl Scan.read ⟨false, 0, 0⟩ = ⟨false, 0, 1⟩ →
      (unlines [String.ofList s]).foldl Scan.read ⟨false, 0, 0⟩ = ⟨false, 0, 1⟩ := by
    intro s hs
    rw [unlines, List.flatMap_singleton, String.toList_ofList, List.foldl_append, hs]
    decide
  have hstyle : ∀ l ∈ ["    <style>"] ++ styleLines ++ ["    </style>", "</head>"], Quiet 1 l.toList := by
    simp only [List.forall_mem_append, List.forall_mem_cons]
    exact ⟨⟨⟨quiet_ofList (by decide_cbv), List.forall_mem_nil _⟩, fun l hl =>
      .of_not_mem (lt_not_mem_styleLines l hl)⟩, quiet_ofList (by decide_cbv),
      quiet_ofList (by decide_cbv), List.forall_mem_nil _⟩
  rw [hhead, unlines_append, List.foldl_append, show Quiet 0 (unlines _) from .unlines ?_, unlines_append,
    List.foldl_append, hscript _ (by decide_cbv)]
  · exact Quiet.unlines hstyle
  · simp only [List.forall_mem_cons]
    repeat' refine And.intro (quiet_ofList (by decide_cbv)) ?_
    exact List.forall_mem_nil _

theorem quiet_banner : ∀ l ∈ ["<body>"] ++ banner, Quiet 1 l.toList := by
  simp only [banner, List.cons_append, List.nil_append, List.forall_mem_cons]
  repeat' refine And.intro (quiet_ofList (by decide_cbv)) ?_
  exact List.forall_mem_nil _

theorem quiet_controls : ∀ l ∈ controls ++ ["    <div id=\"mynetwork\"></div>", ""], Quiet 1 l.toList := by
  have hoption : ∀ (k : NodeKind) (after : String), Quiet 1 after.toList →
      Quiet 1 ("                <option value=\"" ++ k.code ++ after).toList := by
    intro k after ha
    refine quiet_enclosed (quiet_ofList (by decide_cbv)) ?_ ha
    cases k <;> exact lt_not_mem_ofList (by decide)
  simp only [controls, List.cons_append, List.nil_append, List.forall_mem_cons]
  refine ⟨?_, ?_, ?_, ?_, ?_, hoption .primary _ (quiet_ofList (by decide_cbv)),
    hoption .group _ (quiet_ofList (by decide_cbv)), ?_⟩
  iterate 5 exact quiet_ofList (by decide_cbv)
  repeat' refine And.intro (quiet_ofList (by decide_cbv)) ?_
  exact List.forall_mem_nil _

theorem quiet_count {label value : String} (hl : '<' ∉ label.toList) (hv : '<' ∉ value.toList) :
    ∀ l ∈ count label value, Quiet 1 l.toList := by
  simp only [count, List.forall_mem_cons]
  exact ⟨quiet_ofList (by decide_cbv),
    quiet_enclosed (quiet_ofList (by decide_cbv)) hl (quiet_ofList (by decide_cbv)),
    quiet_enclosed (quiet_ofList (by decide_cbv)) hv (quiet_ofList (by decide_cbv)),
    quiet_ofList (by decide_cbv), List.forall_mem_nil _⟩

theorem quiet_counts {statistics : Fields}
    (h : ∀ key, '<' ∉ (Fields.getD statistics key (.int 0)).shown.toList) (nodes edges : Nat) :
    ∀ l ∈ counts statistics nodes edges, Quiet 1 l.toList := by
  simp only [counts, List.forall_mem_append, List.forall_mem_cons]
  refine ⟨⟨⟨⟨⟨⟨quiet_ofList (by decide_cbv), List.forall_mem_nil _⟩, quiet_count (by decide) (h _)⟩,
    quiet_count (by decide) (lt_not_mem_toString edges)⟩, quiet_count (by decide) (h _)⟩,
    quiet_count (by decide) (lt_not_mem_toString nodes)⟩, quiet_ofList (by decide_cbv),
    quiet_ofList (by decide_cbv), List.forall_mem_nil _⟩

theorem quiet_legendItem {color : String} (hc : '<' ∉ color.toList) (label : String) :
    ∀ l ∈ legendItem label color, Quiet 1 l.toList := by
  simp only [legendItem, List.forall_mem_cons]
  exact ⟨quiet_ofList (by decide_cbv),
    quiet_enclosed (quiet_ofList (by decide_cbv)) hc (quiet_ofList (by decide_cbv)),
    quiet_enclosed (quiet_ofList (by decide_cbv)) (lt_not_mem_markup label)
      (quiet_ofList (by decide_cbv)),
    quiet_ofList (by decide_cbv), List.forall_mem_nil _⟩

theorem exists_legend {colors : Colors} (h : colors.ArePlain) :
    ∃ ls, legend colors = .ok ls ∧ ∀ l ∈ ls, Quiet 1 l.toList := by
  have hlabels : (colors.mapM fun e => do
      let label ← labelText e.1
      return legendItem label e.2.shown : Except Fault _) =
      .ok (colors.map fun e => legendItem e.1.shown e.2.shown) := by
    refine mapM_eq_ok_map fun e he => ?_
    obtain ⟨s, hs⟩ := (h e he).1
    rw [hs]
    rfl
  refine ⟨_, by rw [legend, hlabels]; rfl, ?_⟩
  simp only [List.forall_mem_append, List.forall_mem_cons]
  refine ⟨⟨⟨⟨quiet_ofList (by decide_cbv), quiet_ofList (by decide_cbv),
    quiet_ofList (by decide_cbv), List.forall_mem_nil _⟩, fun l hl => ?_⟩, fun l hl => ?_⟩,
    quiet_ofList (by decide_cbv), quiet_ofList (by decide_cbv), quiet_ofList (by decide_cbv),
    List.forall_mem_nil _⟩
  · obtain ⟨item, hi, hl⟩ := List.mem_flatten.1 hl
    obtain ⟨e, he, rfl⟩ := List.mem_map.1 hi
    exact quiet_legendItem (h e he).2.shown _ l hl
  · obtain ⟨t, -, hl⟩ := List.mem_flatMap.1 hl
    exact quiet_legendItem (by cases t <;> decide) _ l hl

/-! The script that shows the items. -/

theorem endsScript_unlines (ls : List String) :
    EndsScript (unlines ls) ↔ ∃ l ∈ ls, EndsScript l.toList := by
  induction ls with
  | nil => exact iff_of_false not_endsScript_nil (by simp)
  | cons l ls ih =>
    rw [unlines_cons, endsScript_append_cons (by decide), ih, List.exists_mem_cons_iff]

theorem exists_mem_textsOfItems (p : String → Prop) (items : List Fields) :
    (∃ s ∈ Value.textsOfItems (items.map .object), p s) ↔
      ∃ item ∈ items, ∃ s ∈ (Value.object item).texts, p s := by
  induction items with
  | nil => simp [Value.textsOfItems]
  | cons item items ih =>
    simp only [List.map_cons, Value.textsOfItems, List.mem_append, or_and_right, exists_or, ih,
      List.exists_mem_cons_iff]

theorem endsScript_dataLine {name : String} (hn : '<' ∉ name.toList) (items : List Fields) :
    EndsScript (dataLine name items).toList ↔ ∃ item ∈ items, ItemEnds item := by
  have hbefore : '<' ∉ ("        const " ++ name ++ " = ").toList :=
    lt_not_mem_append (lt_not_mem_append (by decide) hn) (by decide)
  have hline : (dataLine name items).toList = ("        const " ++ name ++ " = ").toList ++
      ((Json.write Json.oneLine (.list (items.map .object))).toList ++ [';']) := by
    show ("        const " ++ name ++ " = " ++ _ ++ ";").toList = _
    rw [String.toList_append, String.toList_append, List.append_assoc]
    rfl
  rw [hline, endsScript_append_of_not_mem hbefore, endsScript_append_cons (by decide), Json.write,
    endsScript_writeAt, Value.texts, exists_mem_textsOfItems]
  exact or_iff_left not_endsScript_nil

def opening : List Char := "<script type=\"text/javascript\">".toList

def closing : List Char := "</script>\n</body>\n</html>\n".toList

/-- What the last script of a page holds: the items and the code that shows them. -/
def scriptBlock (nodes : List NodeItem) (edges : List EdgeItem) : List Char :=
  unlines (["", dataLine "allNodes" (nodes.map NodeItem.toFields),
    dataLine "allEdges" (edges.map EdgeItem.toFields)] ++ indent 8 script) ++ [' ', ' ', ' ', ' ']

theorem endsScript_scriptBlock (nodes : List NodeItem) (edges : List EdgeItem) :
    EndsScript (scriptBlock nodes edges) ↔
      (∃ n ∈ nodes, ItemEnds n.toFields) ∨ ∃ e ∈ edges, ItemEnds e.toFields := by
  have hcode : ¬ ∃ l ∈ indent 8 script, EndsScript l.toList := by
    rintro ⟨l, hl, he⟩
    exact not_endsScript_of_not_mem (lt_not_mem_indent lt_not_mem_script 8 l hl) he
  have hexists : ∀ {α : Type} (f : α → Fields) (l : List α),
      (∃ item ∈ l.map f, ItemEnds item) ↔ ∃ a ∈ l, ItemEnds (f a) := fun f l => by
    simp only [List.mem_map, exists_exists_and_eq_and]
  have hempty : ¬ EndsScript "".toList := by decide
  have hspaces : ¬ EndsScript [' ', ' ', ' '] := by decide
  rw [scriptBlock, endsScript_append_cons (by decide), endsScript_unlines]
  simp only [List.cons_append, List.nil_append, List.exists_mem_cons_iff]
  rw [endsScript_dataLine (by decide), endsScript_dataLine (by decide), hexists, hexists]
  simp only [hempty, hcode, hspaces, false_or, or_false]

theorem unlines_scriptLines (nodes : List NodeItem) (edges : List EdgeItem) :
    unlines (scriptLines nodes edges) =
      "    ".toList ++ opening ++ scriptBlock nodes edges ++ "</script>\n".toList := by
  have hopening : "    <script type=\"text/javascript\">".toList = "    ".toList ++ opening := by
    decide_cbv
  have hclosing : unlines ["    </script>"] = [' ', ' ', ' ', ' '] ++ "</script>\n".toList := by
    decide_cbv
  rw [scriptLines, scriptBlock, unlines_append, hclosing]
  simp only [List.cons_append, List.nil_append, unlines_cons, hopening, List.append_assoc]
  rfl

/-- In a page, a script block is what stands between the tag that starts the second script, outside
of the first, and the lines that close the page. -/
def HasBlock (page : String) (block : List Char) : Prop :=
  ∃ before, page.toList = before ++ opening ++ block ++ closing ∧
    before.foldl Scan.read ⟨false, 0, 0⟩ = ⟨false, 0, 1⟩

theorem scan_opening : opening.foldl Scan.read ⟨false, 0, 1⟩ = ⟨true, 0, 2⟩ := by decide_cbv

/-- No part of a tag that starts a script can be read without a trace. -/
theorem eq_nil_of_isPrefix_startWord {a rest : List Char} (ha : a <+: startWord ++ rest) (hq : Quiet 1 a) :
    a = [] := by
  have hshort : ∀ n ≤ startWord.length, n ≠ 0 → ¬ Quiet 1 (startWord.take n) := by decide_cbv
  have hstart : startWord.foldl Scan.read ⟨false, 0, 1⟩ = ⟨true, 0, 2⟩ := by decide_cbv
  have htake := List.prefix_iff_eq_take.1 ha
  rcases Nat.le_total a.length startWord.length with hn | hn
  · rw [List.take_append_of_le_length hn] at htake
    by_contra hne
    exact hshort _ hn (by simpa using hne) (htake ▸ hq)
  · rw [List.take_append, List.take_of_length_le hn] at htake
    rw [htake, Quiet, List.foldl_append, hstart] at hq
    have hscripts := Scan.scripts_le_foldl (rest.take (a.length - startWord.length)) ⟨true, 0, 2⟩
    rw [hq] at hscripts
    exact absurd hscripts (by decide)

theorem HasBlock.unique {page : String} {a b : List Char} (ha : HasBlock page a) (hb : HasBlock page b) :
    a = b := by
  have hopening : opening = startWord ++ opening.drop startWord.length := by decide_cbv
  have hsame : ∀ {before before' x y : List Char}, before ++ (opening ++ x) = before' ++ (opening ++ y) →
      before.foldl Scan.read ⟨false, 0, 0⟩ = ⟨false, 0, 1⟩ →
      before'.foldl Scan.read ⟨false, 0, 0⟩ = ⟨false, 0, 1⟩ → ∀ more, before' = before ++ more → x = y := by
    rintro before _ x y he hs hs' more rfl
    rw [List.foldl_append, hs] at hs'
    rw [List.append_assoc, List.append_cancel_left_eq] at he
    have hprefix : more <+: startWord ++ (opening.drop startWord.length ++ x) :=
      ⟨opening ++ y, by rw [← he, ← List.append_assoc, ← hopening]⟩
    have hmore : more = [] := eq_nil_of_isPrefix_startWord hprefix hs'
    rw [hmore] at he
    exact List.append_cancel_left he
  obtain ⟨before, hpage, hs⟩ := ha
  obtain ⟨before', hpage', hs'⟩ := hb
  rw [hpage, List.append_assoc, List.append_assoc, List.append_assoc, List.append_assoc] at hpage'
  suffices h : a ++ closing = b ++ closing from List.append_cancel_right h
  rcases List.append_eq_append_iff.1 hpage' with ⟨more, hm, -⟩ | ⟨more, hm, -⟩
  · exact hsame hpage' hs hs' more hm
  · exact (hsame hpage'.symm hs' hs more hm).symm

/-- The block of a page is all of its second script, and the last one, if it does not end it. -/
theorem HasBlock.scripts_eq_two {page : String} {block : List Char} (h : HasBlock page block)
    (hb : ¬ EndsScript block) : scripts page.toList = 2 := by
  obtain ⟨before, hpage, hbefore⟩ := h
  obtain ⟨k, hk, hblock⟩ := Scan.exists_foldl_read_of_not_endsScript hb 2
  have hread : ∀ k < endWord.length, Scan.read ⟨true, k, 2⟩ '<' = ⟨true, 1, 2⟩ := by decide
  have hclosing : ∃ rest, closing = '<' :: rest ∧ (rest.foldl Scan.read ⟨true, 1, 2⟩).scripts = 2 :=
    ⟨closing.tail, by decide_cbv, by decide_cbv⟩
  rw [scripts, hpage, List.foldl_append, List.foldl_append, List.foldl_append, hbefore, scan_opening, hblock]
  obtain ⟨rest, hrest, hscripts⟩ := hclosing
  rw [hrest, List.foldl_cons, hread k hk, hscripts]

/-- The lines of a page that stand in front of its last script. -/
def linesBefore (statistics : Fields) (nodes edges : Nat) (legend : List String) : List String :=
  head ++ (["<body>"] ++ banner ++ counts statistics nodes edges ++
    (controls ++ ["    <div id=\"mynetwork\"></div>", ""]) ++ legend)

theorem scan_linesBefore {statistics : Fields}
    (hs : ∀ key, '<' ∉ (Fields.getD statistics key (.int 0)).shown.toList) (nodes edges : Nat)
    {legend : List String} (hl : ∀ l ∈ legend, Quiet 1 l.toList) :
    (unlines (linesBefore statistics nodes edges legend)).foldl Scan.read ⟨false, 0, 0⟩ = ⟨false, 0, 1⟩ := by
  have hbody := List.forall_mem_append.2 ⟨quiet_banner, quiet_counts hs nodes edges⟩
  have hlines := List.forall_mem_append.2 ⟨List.forall_mem_append.2 ⟨hbody, quiet_controls⟩, hl⟩
  rw [linesBefore, unlines_append, List.foldl_append, scan_head]
  exact Quiet.unlines hlines

theorem write_eq_ok {c : Chart Float} {statistics : Fields} {nodes : List NodeItem}
    {edges : List EdgeItem} {ls : List String} (hi : items c = .ok (nodes, edges))
    (hn : ∀ n ∈ nodes, checkSize n = .ok ()) (hl : legend c.colors = .ok ls) :
    write c (.object statistics) = .ok ("\n".intercalate
      (linesBefore statistics nodes.length edges.length ls ++ scriptLines nodes edges ++
        ["</body>", "</html>"] ++ [""])) := by
  have hstatistics : readStatistics (.object statistics) = .ok statistics := by
    cases statistics with
    | nil => rfl
    | cons f fs => rfl
  rw [write, hi, ok_bind]
  simp only [hstatistics, hl, ok_bind, forM_eq_ok_iff.2 hn, linesBefore, List.append_assoc]
  rfl

theorem exists_write {c : Chart Float} {statistics : Fields} {nodes : List NodeItem}
    {edges : List EdgeItem} (hi : items c = .ok (nodes, edges))
    (hn : ∀ n ∈ nodes, checkSize n = .ok ()) (hc : c.colors.ArePlain)
    (hs : ∀ key, '<' ∉ (Fields.getD statistics key (.int 0)).shown.toList) :
    ∃ page, write c (.object statistics) = .ok page ∧ HasBlock page (scriptBlock nodes edges) := by
  obtain ⟨ls, hl, hquiet⟩ := exists_legend hc
  have hbefore := scan_linesBefore hs nodes.length edges.length hquiet
  have hspaces : Quiet 1 "    ".toList := .of_not_mem (by decide)
  have hclosing : closing = "</script>\n".toList ++ unlines ["</body>", "</html>"] := by decide_cbv
  refine ⟨_, write_eq_ok hi hn hl, _ ++ "    ".toList, ?_, by rw [List.foldl_append, hbefore, hspaces]⟩
  rw [toList_intercalate_unlines, unlines_append, unlines_append, unlines_scriptLines, hclosing]
  simp only [List.append_assoc]

end CellFlow.Page
