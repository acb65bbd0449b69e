import ExportLedger.Calendar.Rfc3339
import ExportLedger.Proofs.Text.Decimal
/-!
The grammar of timestamps, what a text of this form denotes, and that the strict reader takes
exactly this.
-/
namespace ExportLedger.Rfc3339

open Decimal (value)

/-- So many digits, with this value. -/
structure IsNumber (width n : Nat) (cs : List Char) : Prop where
  length : cs.length = width
  digits : cs.all Char.isDigit
  value : value cs = n

/-- No fraction, or a point and at least one digit. What is less than a nanosecond is dropped. -/
inductive FractionSpelling : Nat → List Char → Prop where
  | absent : FractionSpelling 0 []
  | present {ds : List Char} (hne : ds ≠ []) (hds : ds.all Char.isDigit) :
    FractionSpelling (value ds * 10 ^ 9 / 10 ^ ds.length) ('.' :: ds)

/-- The signs of an offset. The last is the minus sign of typography. -/
def offsetSigns : List (Char × Int) := [('+', 1), ('-', -1), ('−', -1)]

/-- Minutes east of UTC. -/
inductive OffsetSpelling : Int → List Char → Prop where
  | utc {c : Char} (hc : c = 'Z' ∨ c = 'z') : OffsetSpelling 0 [c]
  | signed {c : Char} {sign : Int} {hours minutes : Nat} {hs ms : List Char}
      (hc : (c, sign) ∈ offsetSigns)
      (hh : IsNumber 2 hours hs) (hm : IsNumber 2 minutes ms) (hlt : minutes < 60) :
    OffsetSpelling (sign * (hours * 60 + minutes)) (c :: (hs ++ ':' :: ms))

/-- Date, time and offset, each part with all its digits. -/
inductive Spelling : Reading → List Char → Prop where
  | mk {year month day hour minute second nanos : Nat} {offset : Int}
      {years months days hours minutes seconds fraction back : List Char} {mark : Char}
      (hyear : IsNumber 4 year years) (hmonth : IsNumber 2 month months)
        (hday : IsNumber 2 day days)
      (hmark : mark = 'T' ∨ mark = 't' ∨ mark = ' ') (hhour : IsNumber 2 hour hours)
      (hminute : IsNumber 2 minute minutes) (hsecond : IsNumber 2 second seconds)
      (hnanos : FractionSpelling nanos fraction) (hoffset : OffsetSpelling offset back) :
    Spelling ⟨⟨year, month, day⟩, hour, minute, second, nanos, offset⟩
      (years ++ '-' ::
        (months ++ '-' :: (days ++ mark :: (hours ++ ':' :: (minutes ++ ':' :: (seconds ++
        (fraction ++ back)))))))

/-- The text does not go on with another digit. -/
def EndsDigits (rest : List Char) : Prop := ∀ c, rest.head? = some c → ¬c.isDigit

theorem number?_append {least most : Nat} {ds rest : List Char} (hd : ds.all Char.isDigit)
    (hleast : least ≤ ds.length) (hmost : ds.length ≤ most)
    (hr : ds.length < most → EndsDigits rest) :
    number? least most (ds ++ rest) = some (value ds, rest) := by
  have htake : ((ds ++ rest).take most).takeWhile Char.isDigit = ds := by
    rw [List.take_append, List.take_of_length_le hmost]
    refine Decimal.takeWhile_isDigit_append hd fun c hc => ?_
    rcases Nat.lt_or_ge ds.length most with hlt | hge
    · refine hr hlt c ?_
      rwa [List.head?_take, if_neg (by omega)] at hc
    · rw [Nat.sub_eq_zero_of_le hge] at hc
      simp at hc
  simp only [number?, htake, if_pos hleast, List.drop_left]

theorem number?_cons_of_not_isDigit {least : Nat} (hleast : 0 < least) (most : Nat) {c : Char}
    (hc : ¬c.isDigit) (cs : List Char) : number? least most (c :: cs) = none := by
  have htake : ((c :: cs).take most).takeWhile Char.isDigit = [] := by
    cases most with
    | zero => rfl
    | succ most => rw [List.take_succ_cons, List.takeWhile_cons_of_neg hc]
  unfold number?
  rw [htake]
  exact if_neg (by rw [List.length_nil]; omega)

/-- What is read are digits, and they go on as far as they may. -/
theorem exists_digits_of_number? {least most n : Nat} {cs rest : List Char}
    (h : number? least most cs = some (n, rest)) :
    ∃ ds, cs = ds ++ rest ∧ ds.all Char.isDigit ∧ least ≤ ds.length ∧ ds.length ≤ most ∧
      value ds = n ∧
      (ds.length < most → EndsDigits rest) := by
  unfold number? at h
  dsimp only at h
  split at h
  · rename_i hleast
    obtain ⟨hn, hrest⟩ := Prod.mk.inj (Option.some.inj h)
    have hprefix := List.takeWhile_prefix (l := cs.take most) Char.isDigit
    have hmost := hprefix.length_le.trans (List.length_take_le most cs)
    have hall := List.all_takeWhile (l := cs.take most) (p := Char.isDigit)
    have hends := List.head?_dropWhile_not Char.isDigit (cs.take most)
    have hsplit := List.takeWhile_append_dropWhile (p := Char.isDigit) (l := cs.take most)
    generalize (cs.take most).takeWhile Char.isDigit = ds at *
    obtain ⟨back, hback⟩ := hprefix.trans (List.take_prefix most cs)
    have hcs : cs = ds ++ rest := by
      rw [← hrest, ← hback, List.drop_left]
    refine ⟨ds, hcs, hall, hleast, hmost, hn, fun hlt c hc hdigit => ?_⟩
    have htake : cs.take most = ds ++ rest.take (most - ds.length) := by
      rw [hcs, List.take_append, List.take_of_length_le hlt.le]
    rw [htake] at hsplit hends
    rw [List.append_cancel_left hsplit, List.head?_take, if_neg (by omega), hc] at hends
    rw [hends] at hdigit
    contradiction
  · contradiction

theorem IsNumber.read {width n : Nat} {ds : List Char} (h : IsNumber width n ds)
    (rest : List Char) :
    number? width width (ds ++ rest) = some (n, rest) := by
  rw [number?_append h.digits h.length.ge h.length.le fun hlt => absurd h.length hlt.ne, h.value]

theorem number?_eq_some_iff {width n : Nat} {cs rest : List Char} :
    number? width width cs = some (n, rest) ↔ ∃ ds, IsNumber width n ds ∧ cs = ds ++ rest := by
  constructor
  · intro h
    obtain ⟨ds, hcs, hdigits, hleast, hmost, hvalue, -⟩ := exists_digits_of_number? h
    exact ⟨ds, ⟨Nat.le_antisymm hmost hleast, hdigits, hvalue⟩, hcs⟩
  · intro h
    obtain ⟨ds, hds, rfl⟩ := h
    exact hds.read rest

theorem bind_number?_eq_some_iff {width : Nat} {cs : List Char} {f : Nat × List Char → Option α}
    {a : α} :
    (number? width width cs).bind f = some a ↔ ∃ n ds rest, IsNumber width n ds ∧ cs = ds ++ rest ∧
      f (n, rest) = some a := by
  constructor
  · intro h
    obtain ⟨⟨n, rest⟩, hread, h⟩ := Option.bind_eq_some_iff.1 h
    obtain ⟨ds, hds, hcs⟩ := number?_eq_some_iff.1 hread
    exact ⟨n, ds, rest, hds, hcs, h⟩
  · intro h
    obtain ⟨n, ds, rest, hds, hcs, h⟩ := h
    rw [number?_eq_some_iff.2 ⟨ds, hds, hcs⟩, Option.bind_some, h]

theorem skip?_eq_some_iff {c : Char} {cs rest : List Char} :
    skip? c cs = some rest ↔ cs = c :: rest := by
  cases cs with
  | nil => simp only [skip?, reduceCtorEq]
  | cons d cs =>
    by_cases hd : d = c
    · rw [skip?, if_pos hd, hd, Option.some.injEq, List.cons.injEq, and_iff_right rfl]
    · rw [skip?, if_neg hd, List.cons.injEq]
      simp only [reduceCtorEq, hd, false_and]

theorem bind_skip?_eq_some_iff {c : Char} {cs : List Char} {f : List Char → Option α} {a : α} :
    (skip? c cs).bind f = some a ↔ ∃ rest, cs = c :: rest ∧ f rest = some a := by
  simp only [Option.bind_eq_some_iff, skip?_eq_some_iff]

/-- Digits beyond the ninth do not count. -/
theorem value_fraction {ds more : List Char} (hmore : more.all Char.isDigit) (hle : ds.length ≤ 9)
    (hlt : ds.length < 9 → more = []) :
    value (ds ++ more) * 10 ^ 9 / 10 ^ (ds ++ more).length = value ds * 10 ^ (9 - ds.length) := by
  rcases Nat.lt_or_ge ds.length 9 with h | h
  · have hpow : 10 ^ 9 = 10 ^ (9 - ds.length) * 10 ^ ds.length := by
      rw [← Nat.pow_add, Nat.sub_add_cancel hle]
    rw [hlt h, List.append_nil, hpow, ← Nat.mul_assoc,
      Nat.mul_div_cancel _ (Nat.pow_pos (by decide))]
  · have hnine : ds.length = 9 := Nat.le_antisymm hle h
    have hpos : 0 < 10 ^ more.length := Nat.pow_pos (by decide)
    rw [List.length_append, hnine, Nat.add_comm, Nat.pow_add, Nat.mul_div_mul_right _ _ (by decide),
      Decimal.value_append, Nat.mul_add_div hpos, Nat.div_eq_of_lt (Decimal.value_lt hmore),
      Nat.sub_self, Nat.pow_zero, Nat.mul_one, Nat.add_zero]

theorem fraction?_eq_some_iff {nanos : Nat} {cs rest : List Char} (hrest : EndsDigits rest)
    (hpoint : rest.head? ≠ some '.') :
    fraction? cs = some (nanos, rest) ↔ ∃ front, FractionSpelling nanos front ∧
      cs = front ++ rest := by
  constructor
  · intro h
    unfold fraction? at h
    split at h
    · rename_i cs
      simp only [Option.bind_eq_bind, Option.bind_eq_some_iff, Prod.exists, Option.some.injEq,
        Prod.mk.injEq] at h
      obtain ⟨n, back, hn, rfl, rfl⟩ := h
      obtain ⟨ds, rfl, hdigits, hleast, hmost, rfl, hends⟩ := exists_digits_of_number? hn
      have hmore : (back.takeWhile Char.isDigit).all Char.isDigit := List.all_takeWhile
      have hnil (hlt : ds.length < 9) : back.takeWhile Char.isDigit = [] := by
        cases back with
        | nil => rfl
        | cons c back => exact List.takeWhile_cons_of_neg (hends hlt c rfl)
      have hused : (ds ++ back).length - back.length = ds.length := by
        rw [List.length_append, Nat.add_sub_cancel]
      have hne : ds ++ back.takeWhile Char.isDigit ≠ [] :=
        List.append_ne_nil_of_left_ne_nil (List.ne_nil_of_length_pos hleast) _
      have hfraction := FractionSpelling.present hne (by rw [List.all_append, hdigits, hmore]; rfl)
      rw [value_fraction hmore hmost hnil, ← hused] at hfraction
      refine ⟨_, hfraction, ?_⟩
      rw [List.cons_append, List.append_assoc, List.takeWhile_append_dropWhile]
    · obtain ⟨rfl, rfl⟩ := Prod.mk.inj (Option.some.inj h)
      exact ⟨[], .absent, rfl⟩
  · intro h
    obtain ⟨front, hfront, rfl⟩ := h
    cases hfront with
    | absent =>
      unfold fraction?
      split
      · rename_i hcs
        rw [List.nil_append] at hcs
        exact absurd (congrArg List.head? hcs) hpoint
      · rfl
    | @present ds hne hds =>
      have hsplit : ds.take 9 ++ ds.drop 9 = ds := List.take_append_drop 9 ds
      have hfront : (ds.take 9).all Char.isDigit :=
        List.all_eq_true.2 fun c hc => List.all_eq_true.1 hds c (List.mem_of_mem_take hc)
      have hback : (ds.drop 9).all Char.isDigit :=
        List.all_eq_true.2 fun c hc => List.all_eq_true.1 hds c (List.mem_of_mem_drop hc)
      have hlength : (ds.take 9).length = min 9 ds.length := List.length_take
      have hpos : 0 < ds.length := List.length_pos_iff.2 hne
      have hnil (hlt : (ds.take 9).length < 9) : ds.drop 9 = [] := List.drop_eq_nil_of_le (by omega)
      have hends (hlt : (ds.take 9).length < 9) : EndsDigits (ds.drop 9 ++ rest) := by
        rw [hnil hlt]
        exact hrest
      have hread : number? 1 9 (ds.take 9 ++ (ds.drop 9 ++ rest)) =
          some (value (ds.take 9), ds.drop 9 ++ rest) :=
        number?_append hfront (by omega) (by omega) hends
      have hused : (ds ++ rest).length - (ds.drop 9 ++ rest).length = (ds.take 9).length := by
        rw [List.length_append, List.length_append, List.length_drop]
        omega
      have hvalue := value_fraction hback (by omega) hnil
      rw [← List.append_assoc, hsplit] at hread
      rw [hsplit] at hvalue
      simp only [List.cons_append, fraction?, hread, Option.bind_eq_bind, Option.bind_some, hused,
        hvalue, Nat.pow_eq, Decimal.dropWhile_isDigit_append hback hrest]

theorem offsetSign?_eq_some_iff {sign : Int} {cs rest : List Char} :
    offsetSign? cs = some (sign, rest) ↔ ∃ c, (c, sign) ∈ offsetSigns ∧ cs = c :: rest := by
  constructor
  · intro h
    unfold offsetSign? at h
    split at h
    · cases h
      exact ⟨'+', by decide, rfl⟩
    · cases h
      exact ⟨'-', by decide, rfl⟩
    · cases h
      exact ⟨'−', by decide, rfl⟩
    · contradiction
  · intro h
    obtain ⟨c, hc, rfl⟩ := h
    simp only [offsetSigns, List.mem_cons, Prod.mk.injEq, List.not_mem_nil, or_false] at hc
    rcases hc with ⟨rfl, rfl⟩ | ⟨rfl, rfl⟩ | ⟨rfl, rfl⟩ <;> rfl

theorem ne_of_mem_offsetSigns {c : Char} {sign : Int} (h : (c, sign) ∈ offsetSigns) :
    c ≠ 'Z' ∧ c ≠ 'z' ∧ c ≠ '.' ∧ ¬c.isDigit := by
  simp only [offsetSigns, List.mem_cons, Prod.mk.injEq, List.not_mem_nil, or_false] at h
  rcases h with ⟨rfl, -⟩ | ⟨rfl, -⟩ | ⟨rfl, -⟩ <;> decide

theorem offset?_eq_some_iff {m : Int} {cs rest : List Char} :
    offset? (skip? ':') cs = some (m, rest) ↔ ∃ front, OffsetSpelling m front ∧
      cs = front ++ rest := by
  constructor
  · intro h
    unfold offset? at h
    split at h
    · cases h
      exact ⟨['Z'], .utc (.inl rfl), rfl⟩
    · cases h
      exact ⟨['z'], .utc (.inr rfl), rfl⟩
    · obtain ⟨⟨sign, _⟩, hsign, h⟩ := Option.bind_eq_some_iff.1 h
      obtain ⟨c, hc, hcs⟩ := offsetSign?_eq_some_iff.1 hsign
      obtain ⟨hours, hs, _, hh, hhs, h⟩ := bind_number?_eq_some_iff.1 h
      obtain ⟨_, hcolon, h⟩ := bind_skip?_eq_some_iff.1 h
      obtain ⟨minutes, ms, _, hm, hms, h⟩ := bind_number?_eq_some_iff.1 h
      dsimp only at h
      split at h
      · rename_i hlt
        cases h
        refine ⟨_, .signed hc hh hm hlt, ?_⟩
        rw [hcs, hhs, hcolon, hms, List.cons_append, List.append_assoc, List.cons_append]
      · contradiction
  · intro h
    obtain ⟨front, hfront, rfl⟩ := h
    cases hfront with
    | utc hc => rcases hc with rfl | rfl <;> rfl
    | @signed c sign hours minutes hs ms hc hh hm hlt =>
      obtain ⟨hZ, hz, -⟩ := ne_of_mem_offsetSigns hc
      rw [List.cons_append, List.append_assoc, List.cons_append]
      unfold offset?
      split
      · rename_i hcs
        exact absurd (List.cons.inj hcs).1 hZ
      · rename_i hcs
        exact absurd (List.cons.inj hcs).1 hz
      · refine Option.bind_eq_some_iff.2 ⟨_, offsetSign?_eq_some_iff.2 ⟨c, hc, rfl⟩, ?_⟩
        refine bind_number?_eq_some_iff.2 ⟨_, _, _, hh, rfl, ?_⟩
        refine bind_skip?_eq_some_iff.2 ⟨_, rfl, ?_⟩
        exact bind_number?_eq_some_iff.2 ⟨_, _, _, hm, rfl, if_pos hlt⟩

theorem skipDateEnd?_eq_some_iff {cs rest : List Char} :
    skipDateEnd? cs = some rest ↔ ∃ mark, (mark = 'T' ∨ mark = 't' ∨ mark = ' ') ∧
      cs = mark :: rest := by
  constructor
  · intro h
    unfold skipDateEnd? at h
    split at h
    · exact ⟨'T', .inl rfl, by rw [Option.some.inj h]⟩
    · exact ⟨'t', .inr (.inl rfl), by rw [Option.some.inj h]⟩
    · exact ⟨' ', .inr (.inr rfl), by rw [Option.some.inj h]⟩
    · contradiction
  · intro h
    obtain ⟨mark, hmark, rfl⟩ := h
    rcases hmark with rfl | rfl | rfl <;> rfl

theorem OffsetSpelling.head {m : Int} {front : List Char} (h : OffsetSpelling m front) :
    ∃ c back, front = c :: back ∧ ¬c.isDigit ∧ c ≠ '.' := by
  cases h with
  | @utc c hc => exact ⟨c, [], rfl, by rcases hc with rfl | rfl <;> decide⟩
  | @signed c sign hours minutes hs ms hc =>
    obtain ⟨-, -, hpoint, hdigit⟩ := ne_of_mem_offsetSigns hc
    exact ⟨c, hs ++ ':' :: ms, rfl, hdigit, hpoint⟩

theorem OffsetSpelling.endsDigits {m : Int} {front : List Char} (h : OffsetSpelling m front) :
    EndsDigits front := by
  obtain ⟨c, back, rfl, hdigit, -⟩ := h.head
  intro d hd
  obtain rfl := Option.some.inj hd
  exact hdigit

theorem OffsetSpelling.head?_ne_point {m : Int} {front : List Char} (h : OffsetSpelling m front) :
    front.head? ≠ some '.' := by
  obtain ⟨c, back, rfl, -, hpoint⟩ := h.head
  exact fun hhead => hpoint (Option.some.inj hhead)

theorem strictReading?_eq_some_iff {cs : List Char} {r : Reading} :
    strictReading? cs = some r ↔ Spelling r cs := by
  unfold strictReading?
  constructor
  · intro h
    obtain ⟨year, years, _, hyear, hyears, h⟩ := bind_number?_eq_some_iff.1 h
    obtain ⟨_, hdash, h⟩ := bind_skip?_eq_some_iff.1 h
    obtain ⟨month, months, _, hmonth, hmonths, h⟩ := bind_number?_eq_some_iff.1 h
    obtain ⟨_, hdash', h⟩ := bind_skip?_eq_some_iff.1 h
    obtain ⟨day, days, _, hday, hdays, h⟩ := bind_number?_eq_some_iff.1 h
    obtain ⟨_, hend, h⟩ := Option.bind_eq_some_iff.1 h
    obtain ⟨mark, hmark, hend⟩ := skipDateEnd?_eq_some_iff.1 hend
    obtain ⟨hour, hours, _, hhour, hhours, h⟩ := bind_number?_eq_some_iff.1 h
    obtain ⟨_, hcolon, h⟩ := bind_skip?_eq_some_iff.1 h
    obtain ⟨minute, minutes, _, hminute, hminutes, h⟩ := bind_number?_eq_some_iff.1 h
    obtain ⟨_, hcolon', h⟩ := bind_skip?_eq_some_iff.1 h
    obtain ⟨second, seconds, _, hsecond, hseconds, h⟩ := bind_number?_eq_some_iff.1 h
    obtain ⟨⟨nanos, _⟩, hfraction, h⟩ := Option.bind_eq_some_iff.1 h
    obtain ⟨⟨offset, rest⟩, hback, h⟩ := Option.bind_eq_some_iff.1 h
    obtain ⟨back, hoffset, hback⟩ := offset?_eq_some_iff.1 hback
    dsimp only at h
    split at h
    · obtain rfl := Option.some.inj h
      subst_vars
      rw [List.append_nil] at hfraction
      obtain ⟨fraction, hnanos, rfl⟩ :=
        (fraction?_eq_some_iff hoffset.endsDigits hoffset.head?_ne_point).1 hfraction
      exact .mk hyear hmonth hday hmark hhour hminute hsecond hnanos hoffset
    · contradiction
  · intro h
    cases h with
    | mk hyear hmonth hday hmark hhour hminute hsecond hnanos hoffset =>
      have hfraction :=
        (fraction?_eq_some_iff hoffset.endsDigits hoffset.head?_ne_point).2 ⟨_, hnanos, rfl⟩
      have hback := offset?_eq_some_iff.2 ⟨_, hoffset, (List.append_nil _).symm⟩
      refine bind_number?_eq_some_iff.2 ⟨_, _, _, hyear, rfl, ?_⟩
      refine bind_skip?_eq_some_iff.2 ⟨_, rfl, ?_⟩
      refine bind_number?_eq_some_iff.2 ⟨_, _, _, hmonth, rfl, ?_⟩
      refine bind_skip?_eq_some_iff.2 ⟨_, rfl, ?_⟩
      refine bind_number?_eq_some_iff.2 ⟨_, _, _, hday, rfl, ?_⟩
      refine Option.bind_eq_some_iff.2 ⟨_, skipDateEnd?_eq_some_iff.2 ⟨_, hmark, rfl⟩, ?_⟩
      refine bind_number?_eq_some_iff.2 ⟨_, _, _, hhour, rfl, ?_⟩
      refine bind_skip?_eq_some_iff.2 ⟨_, rfl, ?_⟩
      refine bind_number?_eq_some_iff.2 ⟨_, _, _, hminute, rfl, ?_⟩
      refine bind_skip?_eq_some_iff.2 ⟨_, rfl, ?_⟩
      refine bind_number?_eq_some_iff.2 ⟨_, _, _, hsecond, rfl, ?_⟩
      refine Option.bind_eq_some_iff.2 ⟨_, hfraction, ?_⟩
      exact Option.bind_eq_some_iff.2 ⟨_, hback, if_pos rfl⟩
/-- The reading is a date and time that exist, and the timestamp is this instant. Second 60 is a
leap second, told as a billion nanoseconds more in the second before. -/
structure Reading.Denotes (r : Reading) (t : Timestamp) : Prop where
  date : r.date.isValid
  range : inRange r.date.dayNumber
  hour : r.hour < 24
  minute : r.minute < 60
  second : r.second ≤ 60
  offset : t.offset.minutes = r.offsetMinutes
  seconds : t.seconds + 60 * r.offsetMinutes =
    r.date.dayNumber * 86400 + r.hour * 3600 + r.minute * 60 + (r.second - r.second / 60 : Nat)
  nanos : t.nanos = r.second / 60 * 1000000000 + r.nanos
  utcRange : inRange (t.seconds / 86400)

theorem timestamp?_eq_some_iff {r : Reading} {t : Timestamp} :
    r.timestamp? = some t ↔ r.Denotes t := by
  constructor
  · intro h
    unfold Reading.timestamp? at h
    simp only [Option.bind_eq_bind, Option.bind_eq_some_iff, Option.guard_eq_some',
      Bool.and_eq_true, decide_eq_true_eq] at h
    obtain ⟨-, ⟨⟨⟨⟨hdate, hrange⟩, hhour⟩, hminute⟩, hsecond⟩, offset, hoffset, -, hutc, h⟩ := h
    unfold Offset.ofMinutes? at hoffset
    split at hoffset
    · obtain rfl := Option.some.inj hoffset
      split at h
      · obtain rfl := Option.some.inj h
        exact ⟨hdate, hrange, hhour, hminute, hsecond, rfl, Int.sub_add_cancel _ _, rfl, hutc⟩
      · contradiction
    · contradiction
  · intro h
    have hoffset : Offset.ofMinutes? r.offsetMinutes = some t.offset := by
      have ho0 := t.offset.gt_neg_day
      have ho1 := t.offset.lt_day
      rw [Offset.ofMinutes?, ← h.offset, dif_pos ⟨ho0, ho1⟩]
    have hfields : r.date.isValid && inRange r.date.dayNumber && r.hour < 24 && r.minute < 60 &&
        r.second ≤ 60 := by
      simp only [Bool.and_eq_true, decide_eq_true_eq]
      exact ⟨⟨⟨⟨h.date, h.range⟩, h.hour⟩, h.minute⟩, h.second⟩
    have hseconds : r.date.dayNumber * 86400 + r.hour * 3600 + r.minute * 60 +
        (r.second - r.second / 60 : Nat) -
        60 * t.offset.minutes = t.seconds := by
      rw [← h.seconds, h.offset]
      omega
    simp only [Reading.timestamp?, hfields, hoffset, hseconds, ← h.nanos, h.utcRange,
      guard, if_true, Option.bind_eq_bind, Option.bind_some, Option.pure_def]
    rw [dif_pos t.nanos_lt]

/-- The strict reader takes the texts of this form that denote an instant. -/
theorem strict?_eq_some_iff {s : String} {t : Timestamp} :
    strict? s = some t ↔ ∃ r, Spelling r s.toList ∧ r.Denotes t := by
  simp only [strict?, Option.bind_eq_some_iff, strictReading?_eq_some_iff, timestamp?_eq_some_iff]

end ExportLedger.Rfc3339
