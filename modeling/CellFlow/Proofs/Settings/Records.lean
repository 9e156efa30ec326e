import CellFlow.Proofs.Data.Keyed
import CellFlow.Settings.Sections

/-!
The sections of the settings as records: what a section holds under the names of its fields, and
that reading a section from an object writes the fields of the object over the standard ones.
-/

set_option autoImplicit false

namespace CellFlow

namespace Fields.AreKeyed

variable {fs gs : Fields}

theorem map_fst_update (h : fs.AreKeyed) (hg : gs.AreKeyed) (hs : ∀ g ∈ gs, g.1 ∈ fs.map (·.1)) :
    (fs.update gs).map (·.1) = fs.map (·.1) := by
  induction gs generalizing fs with
  | nil => rfl
  | cons g gs ih =>
    obtain ⟨name, hn⟩ := Key.exists_text (hg.texts g List.mem_cons_self)
    have hm : Key.text name ∈ fs.map (·.1) := hn ▸ hs g List.mem_cons_self
    obtain ⟨f, hf, he⟩ := List.mem_map.1 hm
    have hv : Fields.get? fs name = some f.2 := h.get?_eq_some_iff.2 (he ▸ hf)
    have hk : (Fields.set fs name g.2).map (·.1) = fs.map (·.1) := h.map_fst_set hv
    rw [update_cons, hn, ih h.set hg.tail fun g' hg' => hk ▸ hs g' (List.mem_cons_of_mem g hg'), hk]

/-- Objects with the same names in the same order are told apart by what they hold. -/
theorem eq_of_forall_get? (h : fs.AreKeyed) (hg : gs.AreKeyed) (hk : fs.map (·.1) = gs.map (·.1))
    (hv : ∀ name : String, Fields.get? fs name = Fields.get? gs name) : fs = gs := by
  refine List.ext_getElem? fun i => ?_
  have hi := congrArg (·[i]?) hk
  simp only [List.getElem?_map] at hi
  cases hf : fs[i]? with
  | none =>
    rw [hf] at hi
    cases hgi : gs[i]? with
    | none => rfl
    | some g =>
      rw [hgi] at hi
      cases hi
  | some f =>
    rw [hf] at hi
    obtain ⟨g, hgi, he⟩ := Option.map_eq_some_iff.1 hi.symm
    obtain ⟨name, hn⟩ := Key.exists_text (h.texts f (List.mem_of_getElem? hf))
    have he : g.1 = f.1 := he
    have hfv : Fields.get? fs name = some f.2 := h.get?_eq_some_iff.2 (hn ▸ List.mem_of_getElem? hf)
    have hgv : Fields.get? gs name = some g.2 :=
      hg.get?_eq_some_iff.2 (hn ▸ he ▸ List.mem_of_getElem? hgi)
    have hw : g.2 = f.2 := Option.some.inj (hgv.symm.trans ((hv name).symm.trans hfv))
    rw [hgi, Prod.ext he hw]

/-- An object that holds all names of another one replaces it. -/
theorem update_eq_right (h : fs.AreKeyed) (hg : gs.AreKeyed) (hk : fs.map (·.1) = gs.map (·.1)) :
    fs.update gs = gs := by
  refine eq_of_forall_get? (h.update hg) hg ?_ fun name => ?_
  · rw [h.map_fst_update hg fun g hm => hk ▸ List.mem_map_of_mem hm, hk]
  · rw [h.get?_update hg]
    cases hv : Fields.get? gs name with
    | some v => rfl
    | none =>
      rw [Option.none_or, Option.eq_none_iff_forall_not_mem]
      intro v hm
      have hn : Key.text name ∈ gs.map (·.1) := hk ▸ List.mem_map_of_mem (h.get?_eq_some_iff.1 hm)
      obtain ⟨g, hgm, he⟩ := List.mem_map.1 hn
      have hs : Fields.get? gs name = some g.2 := hg.get?_eq_some_iff.2 (he ▸ hgm)
      rw [hv] at hs
      cases hs

end Fields.AreKeyed

/-- A record whose fields have names: `fields` shows what it holds under them, and `set` sets one of
them. -/
structure IsRecord {σ : Type} (set : Setter σ) (fields : σ → Fields) : Prop where
  areKeyed : ∀ s, (fields s).AreKeyed
  keys : ∀ s t, (fields s).map (·.1) = (fields t).map (·.1)
  injective : Function.Injective fields
  set_eq : ∀ s name v, Key.text name ∈ (fields s).map (·.1) →
    ∃ t, set name v s = some t ∧ fields t = Fields.set (fields s) name v

/-- An object with no other names than those of some fields. -/
structure Fields.AreAmong (standard given : Fields) : Prop where
  areKeyed : given.AreKeyed
  known : ∀ f ∈ given, f.1 ∈ standard.map (·.1)

namespace IsRecord

variable {σ : Type} {set : Setter σ} {fields : σ → Fields} {given : Fields} {s : σ}

theorem exists_foldlM_set (h : IsRecord set fields) (hg : Fields.AreAmong (fields s) given)
    (refuse : String → Fault) :
    ∃ t, (given.map fun f => (f.1.shown, f)).foldlM (fun s f =>
        match set f.1 f.2.2 s with
        | some s => Except.ok s
        | none => Except.error (refuse f.1)) s = .ok t ∧
      fields t = (fields s).update given := by
  induction given generalizing s with
  | nil => exact ⟨s, rfl, rfl⟩
  | cons f given ih =>
    obtain ⟨hk, hn⟩ := hg
    have hf : Key.text f.1.shown = f.1 := Key.text_shown (hk.texts f List.mem_cons_self)
    obtain ⟨t, ht, hft⟩ := h.set_eq s f.1.shown f.2 (hf.symm ▸ hn f List.mem_cons_self)
    have hgt : Fields.AreAmong (fields t) given :=
      ⟨hk.tail, fun g hm => h.keys s t ▸ hn g (List.mem_cons_of_mem f hm)⟩
    obtain ⟨u, hu, hfu⟩ := ih hgt
    refine ⟨u, ?_, ?_⟩
    · rw [List.map_cons, List.foldlM_cons, ht, ok_bind, hu]
    · rw [hfu, hft, hf, Fields.update_cons]

/-- A section without unknown names is read into a record, over what the record held. -/
theorem exists_readFields (h : IsRecord set fields) (hg : Fields.AreAmong (fields s) given) (callee : String) :
    ∃ t, readFields callee set s given = .ok t ∧ fields t = (fields s).update given := by
  obtain ⟨t, ht, hf⟩ := h.exists_foldlM_set hg fun name => .unknownArgument s!"{callee}.__init__()" name
  have hnames : given.mapM (fun f => f.1.toArgumentName) = .ok (given.map fun f => f.1.shown) := by
    refine mapM_eq_ok_map fun f hf => ?_
    obtain ⟨name, hn⟩ := Key.exists_text (hg.areKeyed.texts f hf)
    rw [hn]
    rfl
  refine ⟨t, ?_, hf⟩
  rw [readFields, hnames, ok_bind, ← List.map_prod_right_eq_zip]
  exact ht

theorem areAmong (h : IsRecord set fields) (s t : σ) : Fields.AreAmong (fields s) (fields t) :=
  ⟨h.areKeyed t, fun _ hf => h.keys t s ▸ List.mem_map_of_mem hf⟩

/-- A section that holds all fields of a record is read as the record. -/
theorem readFields_fields (h : IsRecord set fields) (callee : String) (s t : σ) :
    readFields callee set s (fields t) = .ok t := by
  obtain ⟨u, hu, hf⟩ := h.exists_readFields (h.areAmong s t) callee
  rw [(h.areKeyed s).update_eq_right (h.areKeyed t) (h.keys s t)] at hf
  rw [hu, h.injective hf]

/-- A section is read as the record that holds what the section gives, and for all else what was held. -/
theorem readFields_eq_ok_iff (h : IsRecord set fields) (hg : Fields.AreAmong (fields s) given) (callee : String)
    {t : σ} : readFields callee set s given = .ok t ↔
      ∀ name : String, Fields.get? (fields t) name =
        (Fields.get? given name).or (Fields.get? (fields s) name) := by
  obtain ⟨u, hu, hf⟩ := h.exists_readFields hg callee
  have hv (name : String) : Fields.get? (fields u) name =
      (Fields.get? given name).or (Fields.get? (fields s) name) := by
    rw [hf, (h.areKeyed s).get?_update hg.areKeyed]
  rw [hu]
  constructor
  · rintro ⟨⟩
    exact hv
  · intro ht
    rw [h.injective ((h.areKeyed u).eq_of_forall_get? (h.areKeyed t) (h.keys u t) fun name => by
      rw [hv, ht])]

end IsRecord

theorem ParsingSettings.isRecord : IsRecord set toFields where
  areKeyed s := ⟨by simp [toFields, Key.kind], by simp [toFields]⟩
  keys _ _ := rfl
  injective s t h := by
    cases s
    cases t
    simp_all [toFields]
  set_eq s name v h := by
    simp only [toFields, List.map_cons, List.map_nil, List.mem_cons, List.not_mem_nil, or_false,
      Key.text.injEq] at h
    rcases h with rfl | rfl <;> exact ⟨_, rfl, by simp [toFields, Fields.set]⟩

theorem ArtifactSettings.isRecord : IsRecord set toFields where
  areKeyed s := ⟨by simp [toFields, Key.kind], by simp [toFields]⟩
  keys _ _ := rfl
  injective s t h := by
    cases s
    cases t
    simp_all [toFields]
  set_eq s name v h := by
    simp only [toFields, List.map_cons, List.map_nil, List.mem_cons, List.not_mem_nil, or_false,
      Key.text.injEq] at h
    rcases h with rfl | rfl | rfl | rfl | rfl <;> exact ⟨_, rfl, by simp [toFields, Fields.set]⟩

theorem LayoutSettings.isRecord : IsRecord set toFields where
  areKeyed s := ⟨by simp [toFields, Key.kind], by simp [toFields]⟩
  keys _ _ := rfl
  injective s t h := by
    cases s
    cases t
    simp_all [toFields]
  set_eq s name v h := by
    simp only [toFields, List.map_cons, List.map_nil, List.mem_cons, List.not_mem_nil, or_false,
      Key.text.injEq] at h
    rcases h with rfl | rfl | rfl | rfl | rfl | rfl | rfl | rfl | rfl | rfl | rfl <;>
      exact ⟨_, rfl, by simp [toFields, Fields.set]⟩

theorem FigureSettings.isRecord : IsRecord set toFields where
  areKeyed s := ⟨by simp [toFields, Key.kind], by simp [toFields]⟩
  keys _ _ := rfl
  injective s t h := by
    cases s
    cases t
    simp_all [toFields]
  set_eq s name v h := by
    simp only [toFields, List.map_cons, List.map_nil, List.mem_cons, List.not_mem_nil, or_false,
      Key.text.injEq] at h
    rcases h with rfl | rfl | rfl | rfl | rfl | rfl | rfl <;>
      exact ⟨_, rfl, by simp [toFields, Fields.set]⟩

/-- The sides of a figure are written as they are held, if they are held as a list. -/
theorem FigureSettings.toValue_eq {s : FigureSettings} {sides : List Value} (h : s.figsize = .list sides) :
    s.toValue = .ok (.object s.toFields) := by
  rw [toValue, h, Value.elements, liftM_ok, ok_bind, ← h]
  rfl

end CellFlow
