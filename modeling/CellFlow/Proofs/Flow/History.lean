import CellFlow.Proofs.Flow.LatestWriter

/-!
A flow that is built anew, again and again. A build starts from nothing, and one that is refused changes
nothing; so whatever was asked before, the flow is that of the cells of the last build.
-/

set_option autoImplicit false

namespace CellFlow.Flow

/-- A call for a build: the names of the cells, and their positions unless these are just counted. -/
structure Call where
  results : List CellNames
  positions : Option (List Int) := none

namespace Call

def positionList (c : Call) : List Int := c.positions.getD (countedPositions c.results.length)

/-- There is a position for each cell. -/
def Fits (c : Call) : Prop := c.positionList.length = c.results.length

instance (c : Call) : Decidable c.Fits := inferInstanceAs (Decidable (_ = _))

def cells (c : Call) : List (Int × CellNames) := c.positionList.zip c.results

end Call

def answer (f : Flow Int) (c : Call) : Flow Int × Outcome (List Link) := rebuild f c.positionList c.results

/-- The flow that is kept after some calls, the first of which finds none. -/
def after (calls : List Call) : Flow Int := calls.foldl (fun f c => (f.answer c).1) .empty

/-- The cells of the last call that fits. -/
def lastBuilt (calls : List Call) : List (Int × CellNames) :=
  (calls.reverse.find? fun c => c.Fits).elim [] Call.cells

section Steps

variable {f : Flow Int} {c : Call} {calls : List Call}

theorem answer_of_fits (f : Flow Int) (h : c.Fits) :
    f.answer c = (ofCells c.cells, .ok (ofCells c.cells).links) := by
  rw [Call.Fits] at h
  rw [answer, rebuild, build, if_pos h]
  rfl

theorem answer_of_not_fits (f : Flow Int) (h : ¬ c.Fits) : ∃ positions, c.positions = some positions ∧
    positions.length ≠ c.results.length ∧
    f.answer c = (f, .error (.positionCount positions.length c.results.length)) := by
  cases hp : c.positions with
  | none =>
    refine absurd ?_ h
    rw [Call.Fits, Call.positionList, hp]
    exact length_countedPositions _
  | some positions =>
    have hl : c.positionList = positions := by rw [Call.positionList, hp, Option.getD_some]
    rw [Call.Fits, hl] at h
    refine ⟨positions, rfl, h, ?_⟩
    rw [answer, rebuild, build, hl, if_neg h]

theorem after_concat (calls : List Call) (c : Call) : after (calls ++ [c]) = ((after calls).answer c).1 := by
  rw [after, List.foldl_append]
  rfl

theorem lastBuilt_concat (calls : List Call) (c : Call) :
    lastBuilt (calls ++ [c]) = if c.Fits then c.cells else lastBuilt calls := by
  rw [lastBuilt, List.reverse_append, List.reverse_singleton, List.singleton_append, List.find?_cons]
  by_cases h : c.Fits
  · simp [h]
  · simp [h, lastBuilt]

/-- Of all calls, only the last one that fits counts. -/
theorem after_eq (calls : List Call) : after calls = ofCells (lastBuilt calls) := by
  induction calls using List.reverseRecOn with
  | nil => rfl
  | append_singleton calls c ih =>
    rw [after_concat, lastBuilt_concat]
    by_cases h : c.Fits
    · rw [answer_of_fits _ h, if_pos h]
    · obtain ⟨positions, -, -, ha⟩ := answer_of_not_fits (after calls) h
      rw [ha, if_neg h, ih]

theorem lastBuilt_of_split {earlier later : List Call} (h : c.Fits) (hl : ∀ d ∈ later, ¬ d.Fits) :
    lastBuilt (earlier ++ c :: later) = c.cells := by
  induction later using List.reverseRecOn with
  | nil => rw [lastBuilt_concat, if_pos h]
  | append_singleton later d ih =>
    rw [List.forall_mem_append] at hl
    rw [← List.cons_append, ← List.append_assoc, lastBuilt_concat, if_neg (hl.2 d (List.mem_singleton_self d)),
      ih hl.1]

end Steps

/-- What a flow says that was built from the cells, and nothing else. -/
structure TellsOf (cells : List (Int × CellNames)) (f : Flow Int) : Prop where
  writers : ∀ name, f.writers.get? name = writerIn? cells name
  links : f.links = ((findings cells).map (·.1)).eraseDups
  mem_namesOn : ∀ l name, name ∈ f.namesOn l ↔ (l, name) ∈ findings cells
  ascending : ∀ l, (f.namesOn l).Pairwise (· < ·)
  namesOn_eq_nil : ∀ l, l ∉ f.links → f.namesOn l = []

theorem tellsOf_ofCells (cells : List (Int × CellNames)) : TellsOf cells (ofCells cells) where
  writers := (ofCells_eq cells).1
  links := links_ofCells cells
  mem_namesOn _ _ := mem_namesOn_ofCells
  ascending := (ofCells cells).ascending_namesOn
  namesOn_eq_nil _ hl := namesOn_eq_nil_of_not_mem hl

/-- After any calls, the next one is answered as if it were the first. One with a position for each cell
builds the flow of its cells, and one without is refused and changes nothing. So what is kept is what the
last call that fits leaves when it is the only one, and nothing as long as none fits. -/
theorem after_keepsLastBuild (calls : List Call) :
    (∀ c, ((after calls).answer c).2 = (empty.answer c).2) ∧
    (∀ c, c.Fits → ∃ f, (after calls).answer c = (f, .ok f.links) ∧ TellsOf c.cells f) ∧
    (∀ c, ¬ c.Fits → ∃ positions, c.positions = some positions ∧ positions.length ≠ c.results.length ∧
      ∃ e : Failure, (after calls).answer c = (after calls, .error e) ∧ e.kindName = "ValueError") ∧
    (∀ earlier c later, calls = earlier ++ c :: later → c.Fits → (∀ d ∈ later, ¬ d.Fits) →
      after calls = (empty.answer c).1 ∧ TellsOf c.cells (after calls)) ∧
    ((∀ c ∈ calls, ¬ c.Fits) → after calls = empty) := by
  refine ⟨fun c => ?_, fun c h => ?_, fun c h => ?_, ?_, fun h => ?_⟩
  · by_cases h : c.Fits
    · rw [answer_of_fits _ h, answer_of_fits _ h]
    · obtain ⟨positions, hp, -, ha⟩ := answer_of_not_fits (after calls) h
      obtain ⟨positions', hp', -, ha'⟩ := answer_of_not_fits empty h
      cases hp.symm.trans hp'
      rw [ha, ha']
  · exact ⟨_, answer_of_fits _ h, tellsOf_ofCells c.cells⟩
  · obtain ⟨positions, hp, hl, ha⟩ := answer_of_not_fits (after calls) h
    exact ⟨positions, hp, hl, _, ha, rfl⟩
  · rintro earlier c later rfl h hl
    rw [after_eq, lastBuilt_of_split h hl, answer_of_fits empty h]
    exact ⟨rfl, tellsOf_ofCells c.cells⟩
  · have hnone : calls.reverse.find? (fun c => c.Fits) = none := by
      simpa [List.find?_eq_none] using h
    rw [after_eq, lastBuilt, hnone]
    rfl

/-- The link of the first call has no names any more; the third one is refused. -/
example :
    let x : CellNames := ⟨.ofList ["x"], .empty⟩
    let y : CellNames := ⟨.ofList ["y"], .ofList ["x"]⟩
    let f := after [⟨[x, y], none⟩, ⟨[y, x, y], some [4, 1, 3]⟩, ⟨[x, y], some [5]⟩]
    f.links = [⟨"1", "3"⟩] ∧ f.namesOn ⟨"1", "3"⟩ = ["x"] ∧ f.namesOn ⟨"1", "2"⟩ = [] := by decide +kernel

end CellFlow.Flow
