import ExportLedger.Catalog
import ExportLedger.Proofs.Naming
/-!
Why no latest record is given: the container has answered and holds none, or it has not answered, or
what it holds cannot be read. These are told apart.
-/
namespace ExportLedger.Catalog

variable [Container σ] {family : Family} {s : σ} {name : String} {cause : CatalogError}

/-- The container has answered, and nothing in it belongs to the family. -/
def Lacks (family : Family) (s : σ) : Prop :=
  match family with
  | .sequenced _ => ∃ names, Container.list s = .ok names ∧ ∀ name ∈ names, family.owns name = false
  | .fixed fileName => Container.exists? s fileName = .ok false

/-- The container has not answered the question for the latest name. -/
def Unanswered (family : Family) (s : σ) (e : StoreError) : Prop :=
  match family with
  | .sequenced _ => Container.list s = .error e
  | .fixed fileName => Container.exists? s fileName = .error e

theorem latest?_eq_none_iff {names : List String} :
    family.latest? names = none ↔ ∀ name ∈ names, family.owns name = false := by
  simp only [Family.latest?, Naming.newest?_eq_none_iff, Family.owns, Option.isSome_eq_false_iff,
    Option.isNone_iff_eq_none]

theorem latestName_eq_error_iff : latestName family s = .error cause ↔
    (∃ e, Unanswered family s e ∧ cause = .store e) ∨
      Lacks family s ∧ cause = .noRecord (Container.name s) := by
  cases family with
  | sequenced suffix =>
    simp only [latestName, Unanswered, Lacks]
    cases Container.list s with
    | error e => simp [Except.mapError, bind, Except.bind, @eq_comm _ cause]
    | ok names =>
      simp only [Except.mapError, bind, Except.bind, Except.ok.injEq, exists_eq_left',
        ← latest?_eq_none_iff]
      cases (Family.sequenced suffix).latest? names <;> simp [@eq_comm _ cause]
  | fixed fileName =>
    simp only [latestName, Unanswered, Lacks]
    cases Container.exists? s fileName with
    | error e => simp [Except.mapError, bind, Except.bind, @eq_comm _ cause]
    | ok held => cases held <;> simp [Except.mapError, bind, Except.bind, @eq_comm _ cause]

theorem latestName_sequenced_eq_ok_iff {suffix : String} :
    latestName (.sequenced suffix) s = .ok name ↔
      ∃ names, Container.list s = .ok names ∧
      (Family.sequenced suffix).latest? names = some name := by
  simp only [latestName]
  cases Container.list s with
  | error e => simp [Except.mapError, bind, Except.bind]
  | ok names =>
    simp only [Except.mapError, bind, Except.bind, Except.ok.injEq, exists_eq_left']
    cases (Family.sequenced suffix).latest? names <;> simp

theorem latestName_fixed_eq_ok_iff {fileName : String} : latestName (.fixed fileName) s = .ok name ↔
    Container.exists? s fileName = .ok true ∧ name = fileName := by
  simp only [latestName]
  cases Container.exists? s fileName with
  | error e => simp [Except.mapError, bind, Except.bind]
  | ok held => cases held <;> simp [Except.mapError, bind, Except.bind, eq_comm]

theorem load_eq_error_iff : load family s name = .error cause ↔
    (∃ e, Container.download s name = .error e ∧ cause = .store e) ∨
      ∃ bytes fault, Container.download s name = .ok bytes ∧
      Record.parse bytes family.detail = .error fault ∧
        cause = .malformed name fault := by
  simp only [load]
  cases Container.download s name with
  | error e => simp [Except.mapError, bind, Except.bind, @eq_comm _ cause]
  | ok bytes =>
    simp only [Except.mapError, bind, Except.bind, reduceCtorEq, false_and, exists_false, false_or,
      Except.ok.injEq, exists_and_left, exists_eq_left']
    cases Record.parse bytes family.detail <;> simp [@eq_comm _ cause]

theorem load_eq_ok_iff {r : Record} : load family s name = .ok r ↔
    ∃ bytes, Container.download s name = .ok bytes ∧ Record.parse bytes family.detail = .ok r := by
  simp only [load]
  cases Container.download s name with
  | error e => simp [Except.mapError, bind, Except.bind]
  | ok bytes =>
    simp only [Except.mapError, bind, Except.bind, Except.ok.injEq, exists_eq_left']
    cases Record.parse bytes family.detail <;> simp

/-- What has been found is not absent. -/
theorem load_ne_noRecord {container : String} :
    load family s name ≠ .error (.noRecord container) := by
  rw [ne_eq, load_eq_error_iff]
  rintro (⟨e, -, h⟩ | ⟨bytes, fault, -, -, h⟩) <;> cases h

theorem latestRecord_eq_error_iff : latestRecord family s = .error cause ↔
    latestName family s = .error cause ∨
      ∃ name, latestName family s = .ok name ∧ load family s name = .error cause := by
  simp only [latestRecord]
  cases latestName family s <;> simp [bind, Except.bind]

theorem latestRecord_eq_ok_iff {r : Record} : latestRecord family s = .ok r ↔
    ∃ name, latestName family s = .ok name ∧ load family s name = .ok r := by
  simp only [latestRecord]
  cases latestName family s <;> simp [bind, Except.bind]

/-- Only a container that has answered is said to have no record. -/
theorem latestRecord_eq_noRecord_iff :
    (∃ container, latestRecord family s = .error (.noRecord container)) ↔ Lacks family s := by
  constructor
  · rintro ⟨container, h⟩
    rcases latestRecord_eq_error_iff.1 h with h | ⟨name, -, h⟩
    · rcases latestName_eq_error_iff.1 h with ⟨e, -, h⟩ | ⟨h, -⟩
      · cases h
      · exact h
    · exact absurd h load_ne_noRecord
  · intro h
    exact ⟨_, latestRecord_eq_error_iff.2 (.inl (latestName_eq_error_iff.2 (.inr ⟨h, rfl⟩)))⟩

end ExportLedger.Catalog
