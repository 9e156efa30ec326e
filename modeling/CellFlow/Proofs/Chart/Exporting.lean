import CellFlow.Proofs.Chart.Reload
import CellFlow.Proofs.Json.RoundTrip

/-!
Exported charts: an export writes notes of its own over those of the chart, and a chart that
was read back from an export is exported to the same text.
-/

set_option autoImplicit false

namespace CellFlow

namespace Exporter

/-- The statistics of an export, if there are any. -/
def given : Option Fields → Value
  | some fs => .object fs
  | none => .null

/-- The notes that an export writes itself. -/
def ownNotes (time : String) (c : Chart Float) (statistics : Option Fields) : Fields :=
  let own : Fields :=
    [("timestamp", .text time), ("version", .text version), ("nodes", .int c.nodes.length),
     ("edges", .int c.edges.length)]
  if (given statistics).truthy then own ++ [(.text "statistics", given statistics)] else own

end Exporter

open Exporter

/-- The chart as it is exported. -/
def Chart.exported (c : Chart Float) (time : String) (statistics : Option Fields) : Chart Float :=
  { c with notes := c.notes.update (ownNotes time c statistics) }

section

variable {time : String} {c d : Chart Float} {statistics : Option Fields}

theorem Exporter.notes_given (time : String) (c : Chart Float) (statistics : Option Fields) :
    Exporter.notes time c (given statistics) = .ok (c.notes.update (ownNotes time c statistics)) := by
  cases statistics with
  | none => rfl
  | some fs =>
    cases fs with
    | nil => rfl
    | cons f fs => rfl

theorem Exporter.chartText_given {e : Exporter} {l : Json.Layout} (he : e.layout = .ok l) (time : String)
    (c : Chart Float) (statistics : Option Fields) :
    e.chartText time c (given statistics) = Json.writeChecked l (c.exported time statistics).toValue := by
  rw [chartText, notes_given, ok_bind, he, ok_bind]
  rfl

theorem areKeyed_ownNotes (time : String) (c : Chart Float) (statistics : Option Fields) :
    (ownNotes time c statistics).AreKeyed := by
  rw [ownNotes]
  split
  · exact ⟨by simp [Key.kind], by simp⟩
  · exact ⟨by simp [Key.kind], by simp⟩

theorem isKeyed_of_mem_ownNotes (hs : (given statistics).IsKeyed) {f : Key × Value}
    (hf : f ∈ ownNotes time c statistics) : f.2.IsKeyed := by
  rw [ownNotes] at hf
  split at hf
  · simp only [List.mem_append, List.mem_cons, List.not_mem_nil, or_false] at hf
    rcases hf with (rfl | rfl | rfl | rfl) | rfl
    · exact .atom rfl
    · exact .atom rfl
    · exact .atom rfl
    · exact .atom rfl
    · exact hs
  · simp only [List.mem_cons, List.not_mem_nil, or_false] at hf
    rcases hf with rfl | rfl | rfl | rfl <;> exact .atom rfl

namespace Chart

theorem IsKeyed.exported (hc : c.IsKeyed) (hs : (given statistics).IsKeyed) (time : String) :
    (c.exported time statistics).IsKeyed where
  nodes := hc.nodes
  edges := hc.edges
  colors := hc.colors
  notes := by
    have hk := hc.notes.areKeyed
    have ho := areKeyed_ownNotes time c statistics
    refine .object (hk.update ho) fun f hf => ?_
    rcases Fields.mem_update hk ho hf with hf | hf
    · exact hc.notes.member hf
    · exact isKeyed_of_mem_ownNotes hs hf

theorem Same.ownNotes_eq (h : c.Same d) (time : String) (statistics : Option Fields) :
    ownNotes time d statistics = ownNotes time c statistics := by
  rw [ownNotes, ownNotes, h.nodes.length_eq, h.edges.length_eq]

/-- The notes of an export hold what it wrote. -/
theorem get?_exported (hc : c.IsKeyed) (time name : String) (statistics : Option Fields) :
    Fields.get? (c.exported time statistics).notes name =
      (Fields.get? (ownNotes time c statistics) name).or (Fields.get? c.notes name) :=
  hc.notes.areKeyed.get?_update (areKeyed_ownNotes time c statistics) name

theorem get?_exported_of_mem (hc : c.IsKeyed) {name : String} {v : Value}
    (hv : (.text name, v) ∈ ownNotes time c statistics) :
    Fields.get? (c.exported time statistics).notes name = some v := by
  have ho : Fields.get? (ownNotes time c statistics) name = some v :=
    (areKeyed_ownNotes time c statistics).get?_eq_some_iff.2 hv
  rw [get?_exported hc, ho, Option.some_or]

/-- What an export wrote stays as it is when the chart is exported again. -/
theorem exported_exported (hc : c.IsKeyed) (time : String) (statistics : Option Fields) :
    (c.exported time statistics).exported time statistics = c.exported time statistics := by
  have ho := areKeyed_ownNotes time c statistics
  have hn : (c.exported time statistics).notes.update (ownNotes time c statistics) =
      (c.exported time statistics).notes :=
    (hc.notes.areKeyed.update ho).update_eq_self ho fun _ _ hv => get?_exported_of_mem hc hv
  exact congrArg (fun notes => { c with notes }) hn

theorem Same.exported (hc : c.IsKeyed) (h : (c.exported time statistics).Same d) :
    (c.exported time statistics).Same (d.exported time statistics) where
  nodes := h.nodes
  edges := h.edges
  colors := h.colors
  notes := by
    have ho := areKeyed_ownNotes time c statistics
    have hk := hc.notes.areKeyed.update ho
    have hd : ownNotes time d statistics = ownNotes time c statistics := h.ownNotes_eq time statistics
    have hu : (Value.object d.notes).Same (.object (d.notes.update (ownNotes time c statistics))) := by
      refine .update (h.notes.areKeyed hk) ho fun name v hv => ?_
      obtain ⟨w, hw, hs⟩ := h.notes.get? hk (get?_exported_of_mem hc hv)
      exact ⟨w, hw, hs.symm⟩
    have hn : (d.exported time statistics).notes = d.notes.update (ownNotes time c statistics) := by
      rw [← hd]
      rfl
    rw [hn]
    exact h.notes.trans hu

theorem exists_ofText {l : Json.Layout} (h : l.ReadsBack c.toValue) :
    ∃ d, Chart.ofText (Json.write l c.toValue) = .ok d ∧ c.Same d ∧ (l.sortKeys = false → d = c) := by
  obtain ⟨w, hw, hs, he⟩ := h
  obtain ⟨d, hd, hcd⟩ := exists_ofValue hs
  refine ⟨d, by rw [Chart.ofText, hw]; exact hd, hcd, fun hl => ?_⟩
  rw [he hl, ofValue_toValue] at hd
  exact (Except.ok.inj hd).symm

end Chart

/-- An exported chart can be read again: as the chart that was exported, but for the order of
members where they were sorted, with its notes overridden by those of the export. To export
what was read gives the same text. -/
theorem Exporter.reload_chartText {e : Exporter} {l : Json.Layout} (he : e.layout = .ok l) (time : String)
    (hc : c.IsKeyed) (hs : (given statistics).IsKeyed) (hr : l.ReadsBack (c.exported time statistics).toValue) :
    ∃ text d, e.chartText time c (given statistics) = .ok text ∧ Chart.ofText text = .ok d ∧
      (c.exported time statistics).Same d ∧ (l.sortKeys = false → d = c.exported time statistics) ∧
      (∀ name : String, Fields.get? (c.exported time statistics).notes name =
        (Fields.get? (ownNotes time c statistics) name).or (Fields.get? c.notes name)) ∧
      e.chartText time d (given statistics) = .ok text := by
  have hk : (c.exported time statistics).IsKeyed := hc.exported hs time
  obtain ⟨d, hd, hcd, hdc⟩ := Chart.exists_ofText hr
  have hcd' : (c.exported time statistics).Same (d.exported time statistics) := hcd.exported hc
  have hk' : (d.exported time statistics).toValue.IsKeyed := hcd'.toValue.isKeyed hk.toValue
  have hw : Json.write l (d.exported time statistics).toValue = Json.write l (c.exported time statistics).toValue := by
    cases hl : l.sortKeys with
    | true => exact (Json.write_eq_of_same hl hcd'.toValue).symm
    | false => rw [hdc hl, Chart.exported_exported hc]
  refine ⟨_, d, ?_, hd, hcd, hdc, fun name => Chart.get?_exported hc time name statistics, ?_⟩
  · rw [chartText_given he, Json.writeChecked_of_isKeyed l hk.toValue]
  · rw [chartText_given he, Json.writeChecked_of_isKeyed l hk', hw]

end

/-- A chart with an artifact is exported with sorted keys, over an older version in its notes. -/
theorem Exporter.reload_chartText_sorted :
    let e : Exporter := { sortKeys := .bool true }
    let c : Chart Float := {
      nodes := [
        ⟨.text "3", .primary, ⟨70.0, 40.5⟩, [("label", .text "über"), ("color", .text "#f9f6ed")]⟩,
        ⟨.text "3-artifact-0", .secondary, ⟨-20.25, 0.1⟩, [("owner", .text "3"), ("index", .int 0)]⟩]
      edges := [⟨0, .text "3", .text "3-artifact-0", [("variables", .list [.text "y", .text "x"])]⟩]
      colors := [("über", .text "#f9f6ed")]
      notes := [("version", .text "0.0.9"), ("collapsed", .bool false)] }
    let statistics : Option Fields := some [("nodes", .int 2), ("cells", .int 1)]
    ∃ text d, e.chartText "2024-05-01T12:00:00" c (given statistics) = .ok text ∧ Chart.ofText text = .ok d ∧
      (c.exported "2024-05-01T12:00:00" statistics).Same d ∧
      Fields.get? (c.exported "2024-05-01T12:00:00" statistics).notes "version" = some (.text "0.1.0") ∧
      e.chartText "2024-05-01T12:00:00" d (given statistics) = .ok text := by
  intro e c statistics
  have hc : c.IsKeyed := by
    refine ⟨fun n hn => ?_, fun f hf => ?_, ?_, ?_⟩
    · simp only [c, List.mem_cons, List.not_mem_nil, or_false] at hn
      rcases hn with rfl | rfl
      · exact ⟨.atom rfl, .of_atoms ⟨by simp [Key.kind], by simp⟩ (by simp [Value.key?])⟩
      · exact ⟨.atom rfl, .of_atoms ⟨by simp [Key.kind], by simp⟩ (by simp [Value.key?])⟩
    · obtain rfl := List.mem_singleton.1 hf
      have hnames : (Value.list [.text "y", .text "x"]).IsKeyed := .list fun v hv => by
        simp only [List.mem_cons, List.not_mem_nil, or_false] at hv
        rcases hv with rfl | rfl <;> exact .atom rfl
      exact ⟨.atom rfl, .atom rfl, .object ⟨by simp [Key.kind], by simp⟩ (by simp [hnames])⟩
    · exact .of_atoms ⟨by simp [c, Key.kind], by simp [c]⟩ (by simp [c, Value.key?])
    · exact .of_atoms ⟨by simp [c, Key.kind], by simp [c]⟩ (by simp [c, Value.key?])
  have hs : (given statistics).IsKeyed :=
    .of_atoms ⟨by simp [Key.kind], by simp⟩ (by simp [Value.key?])
  have hb : (Json.Layout.mk (some "  ") true).IsBlank := by
    intro s hs
    obtain rfl : "  " = s := Option.some.inj hs
    simp [Json.isSpace]
  have hf : Json.fits Json.maxDepth (c.exported "2024-05-01T12:00:00" statistics).toValue = true := by decide +kernel
  obtain ⟨text, d, ht, hd, hcd, -, hnotes, hagain⟩ := reload_chartText (e := e) rfl "2024-05-01T12:00:00" hc hs
    (hb.readsBack (hc.exported hs _).toValue hf)
  exact ⟨text, d, ht, hd, hcd, (hnotes "version").trans rfl, hagain⟩

end CellFlow
