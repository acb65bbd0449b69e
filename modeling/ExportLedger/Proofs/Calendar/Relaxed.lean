import ExportLedger.Proofs.Calendar.Rfc3339
/-!
What the strict reader takes, the relaxed one takes as well, and as the same timestamp. Each part
that the strict reader passes over starts with a digit or a mark, so there are no blanks for the
relaxed one to drop.
-/
namespace ExportLedger

/-- Every result of `strict` is one of `relaxed`. -/
def Within (strict relaxed : Option α) : Prop := ∀ a, strict = some a → relaxed = some a

namespace Within

theorem refl (x : Option α) : Within x x := fun _ h => h

/-- The relaxed reader may hold what it has read in another form. -/
theorem bind_map {x : Option α} {form : α → γ} {y : Option γ} {f : α → Option β} {g : γ → Option β}
    (hxy : Within (x.map form) y) (hfg : ∀ a, Within (f a) (g (form a))) :
    Within (x.bind f) (y.bind g) := by
  intro b hb
  obtain ⟨a, ha, hfa⟩ := Option.bind_eq_some_iff.1 hb
  have hy : y = some (form a) := hxy (form a) (by rw [ha, Option.map_some])
  rw [hy, Option.bind_some]
  exact hfg a b hfa

theorem bind {x y : Option α} {f g : α → Option β} (hxy : Within x y)
    (hfg : ∀ a, Within (f a) (g a)) :
    Within (x.bind f) (y.bind g) := by
  have hid : Within (x.map id) y := by rwa [Option.map_id]
  exact hid.bind_map hfg

end Within

namespace Rfc3339

open Text (trimStart isBlank)

theorem isBlank_eq_false_of_isDigit {c : Char} (h : c.isDigit) : isBlank c = false := by
  have hc := Char.isDigit_iff_toNat.1 h
  simp only [Char.reduceToNat] at hc
  simp only [isBlank, Bool.or_eq_false_iff, Bool.and_eq_false_iff, decide_eq_false_iff_not,
    beq_eq_false_iff_ne]
  omega

theorem trimStart_cons {c : Char} (h : isBlank c = false) (cs : List Char) :
    trimStart (c :: cs) = c :: cs := by
  rw [trimStart, List.dropWhile_cons_of_neg (by simp [h])]

/-- A number starts with its first digit. -/
theorem exists_cons_of_number? {least most : Nat} (hleast : 0 < least) {cs rest : List Char}
    {n : Nat} (h : number? least most cs = some (n, rest)) : ∃ c ds, cs = c :: ds ∧ c.isDigit := by
  cases cs with
  | nil =>
    simp only [number?, List.take_nil, List.takeWhile_nil, List.length_nil] at h
    rw [if_neg (by omega)] at h
    contradiction
  | cons c ds =>
    refine ⟨c, ds, rfl, ?_⟩
    by_contra hc
    rw [number?_cons_of_not_isDigit hleast most hc] at h
    contradiction

theorem number?_of_le {least fewer most : Nat} (hle : fewer ≤ least) (cs : List Char) :
    Within (number? least most cs) (number? fewer most cs) := by
  intro a h
  unfold number? at h ⊢
  dsimp only at h ⊢
  split at h
  · rename_i hlen
    rwa [if_pos (by omega)]
  · contradiction

theorem trimStart_of_number? {least most : Nat} (hleast : 0 < least) {cs rest : List Char} {n : Nat}
    (h : number? least most cs = some (n, rest)) : trimStart cs = cs := by
  obtain ⟨c, ds, rfl, hc⟩ := exists_cons_of_number? hleast h
  exact trimStart_cons (isBlank_eq_false_of_isDigit hc) ds

theorem within_year (cs : List Char) :
    Within ((number? 4 4 cs).map fun (n, rest) => ((n : Int), rest)) (relaxedYear? cs) := by
  intro a h
  obtain ⟨⟨n, rest⟩, hn, rfl⟩ := Option.map_eq_some_iff.1 h
  obtain ⟨c, ds, rfl, hc⟩ := exists_cons_of_number? (by decide) hn
  unfold relaxedYear?
  rw [trimStart_of_number? (by decide) hn]
  split
  · rename_i heq
    rw [(List.cons.inj heq).1] at hc
    contradiction
  · rename_i heq
    rw [(List.cons.inj heq).1] at hc
    contradiction
  · rw [number?_of_le (by decide) (c :: ds) _ hn]
    rfl

theorem within_pair (cs : List Char) : Within (number? 2 2 cs) (relaxedPair? cs) := by
  intro a h
  unfold relaxedPair?
  rw [trimStart_of_number? (by decide) h]
  exact number?_of_le (by decide) cs a h

theorem within_skip {c : Char} (hc : isBlank c = false) (cs : List Char) :
    Within (skip? c cs) (relaxedSkip? c cs) := by
  intro rest h
  rw [skip?_eq_some_iff.1 h, relaxedSkip?, trimStart_cons hc]
  exact skip?_eq_some_iff.2 rfl

/-- After the colon comes a digit, so that the relaxed reader stops where the strict one does. -/
theorem within_colon_pair (cs : List Char) : Within ((skip? ':' cs).bind (number? 2 2))
    ((some (cs.dropWhile fun c => c == ':' || isBlank c)).bind (number? 2 2)) := by
  intro a h
  obtain ⟨rest, hskip, hn⟩ := Option.bind_eq_some_iff.1 h
  obtain ⟨c, ds, rfl, hc⟩ := exists_cons_of_number? (by decide) hn
  have hcolon : c ≠ ':' := by
    intro heq
    rw [heq] at hc
    contradiction
  have hstop : ¬(c == ':' || isBlank c) = true := by
    rw [isBlank_eq_false_of_isDigit hc, Bool.or_false, beq_iff_eq]
    exact hcolon
  have hdrop : (':' :: c :: ds).dropWhile (fun c => c == ':' || isBlank c) = c :: ds := by
    rw [List.dropWhile_cons_of_pos (by decide)]
    exact List.dropWhile_cons_of_neg hstop
  rw [skip?_eq_some_iff.1 hskip, Option.bind_some, hdrop, hn]

theorem within_offset (cs : List Char) : Within (offset? (skip? ':') cs)
    (offset? (fun cs => some (cs.dropWhile fun c => c == ':' || isBlank c)) cs) := by
  unfold offset?
  split
  · exact Within.refl _
  · exact Within.refl _
  · refine Within.bind (Within.refl _) fun sign => ?_
    refine Within.bind (Within.refl _) fun hours => ?_
    have hpair := within_colon_pair hours.2
    have hjoin := hpair.bind fun minutes =>
      Within.refl (if minutes.1 < 60 then some (sign.1 * (hours.1 * 60 + minutes.1), minutes.2)
        else none)
    rwa [Option.bind_assoc, Option.bind_assoc] at hjoin

theorem exists_cons_of_offset? {cs : List Char} {result : Int × List Char}
    (h : offset? (skip? ':') cs = some result) :
    ∃ c ds, cs = c :: ds ∧ c ∈ ['Z', 'z', '+', '-', '−'] := by
  unfold offset? at h
  split at h
  · exact ⟨'Z', _, rfl, by decide⟩
  · exact ⟨'z', _, rfl, by decide⟩
  · obtain ⟨sign, hsign, -⟩ := Option.bind_eq_some_iff.1 h
    unfold offsetSign? at hsign
    split at hsign
    · exact ⟨'+', _, rfl, by decide⟩
    · exact ⟨'-', _, rfl, by decide⟩
    · exact ⟨'−', _, rfl, by decide⟩
    · contradiction

theorem within_relaxedOffset (cs : List Char) :
    Within (offset? (skip? ':') cs) (relaxedOffset? (trimStart cs)) := by
  intro result h
  obtain ⟨c, ds, rfl, hc⟩ := exists_cons_of_offset? h
  obtain ⟨hblank, hupper⟩ : isBlank c = false ∧ c.toUpper ≠ 'U' := by
    simp only [List.mem_cons, List.not_mem_nil, or_false] at hc
    obtain rfl | rfl | rfl | rfl | rfl := hc <;> exact ⟨by decide, by decide⟩
  have hutc : ((c :: ds).take 3).map Char.toUpper ≠ ['U', 'T', 'C'] := by
    intro heq
    rw [List.take_succ_cons, List.map_cons, List.cons.injEq] at heq
    exact hupper heq.1
  rw [trimStart_cons hblank, relaxedOffset?, if_neg hutc]
  exact within_offset (c :: ds) result h

/-- The two readers go through the parts side by side. -/
theorem within_reading (cs : List Char) : Within (strictReading? cs) (relaxedReading? cs) := by
  have hdash : isBlank '-' = false := by decide
  have hcolon : isBlank ':' = false := by decide
  unfold strictReading? relaxedReading?
  refine (within_year cs).bind_map fun year => ?_
  refine (within_skip hdash _).bind fun _ => ?_
  refine (within_pair _).bind fun month => ?_
  refine (within_skip hdash _).bind fun _ => ?_
  refine (within_pair _).bind fun day => ?_
  refine (Within.refl _).bind fun _ => ?_
  refine (within_pair _).bind fun hour => ?_
  refine (within_skip hcolon _).bind fun _ => ?_
  refine (within_pair _).bind fun minute => ?_
  refine (within_skip hcolon _).bind fun _ => ?_
  refine (within_pair _).bind fun second => ?_
  refine (Within.refl _).bind fun nanos => ?_
  refine (within_relaxedOffset _).bind fun offset => ?_
  intro reading h
  dsimp only at h ⊢
  split at h
  · rename_i hend
    rw [hend]
    exact h
  · contradiction

theorem relaxed?_of_strict? {s : String} {t : Timestamp} (h : strict? s = some t) :
    relaxed? s = some t :=
  (within_reading s.toList).bind (fun _ => Within.refl _) t h

end Rfc3339

end ExportLedger
