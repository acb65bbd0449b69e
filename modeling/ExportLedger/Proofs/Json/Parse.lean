import ExportLedger.Json.Document
/-!
JSON documents as tokens: the parser takes the tokens of a document, and of nothing else, and gives
that document.
-/
namespace ExportLedger.Json.Document

mutual

def tokens : Document → List Token
  | .null => [.null]
  | .bool b => [.bool b]
  | .number n => [.number n]
  | .text l => [.text l]
  | .array items => .openArray :: itemTokens items ++ [.closeArray]
  | .object members => .openObject :: memberTokens members ++ [.closeObject]

def itemTokens : List Document → List Token
  | [] => []
  | [d] => tokens d
  | d :: ds => tokens d ++ .comma :: itemTokens ds

def memberTokens : List (Literal × Document) → List Token
  | [] => []
  | [(k, d)] => .text k :: .colon :: tokens d
  | (k, d) :: ms => .text k :: .colon :: tokens d ++ .comma :: memberTokens ms

end

/-- Tokens that are read as the document, in whatever array or object it stands. -/
def Reads (d : Document) : Prop :=
  ∀ stack orClose rest, (d.tokens ++ rest).foldlM Parse.step ⟨stack, .value orClose⟩ =
    (Parse.complete d stack).bind fun p => rest.foldlM Parse.step p

theorem foldlM_step_cons {p q : Parse} {t : Token} (h : p.step t = some q) (ts : List Token) :
    (t :: ts).foldlM Parse.step p = ts.foldlM Parse.step q := by
  rw [List.foldlM_cons, h, Option.bind_eq_bind, Option.bind_some]

theorem foldlM_closeArray (done : List Document) (stack : List Frame) (rest : List Token) :
    (.closeArray :: rest).foldlM Parse.step ⟨.items done :: stack, .next⟩ =
      (Parse.complete (.array done.reverse) stack).bind fun p => rest.foldlM Parse.step p := rfl

theorem foldlM_closeObject (done : List (Literal × Document)) (stack : List Frame)
    (rest : List Token) :
    (.closeObject :: rest).foldlM Parse.step ⟨.members done :: stack, .next⟩ =
      (Parse.complete (.object done.reverse) stack).bind fun p => rest.foldlM Parse.step p := rfl

theorem foldlM_itemTokens {ds : List Document} (hds : ∀ d ∈ ds, Reads d) (hne : ds ≠ [])
    (done : List Document) (stack : List Frame) (orClose : Bool) (rest : List Token) :
    (itemTokens ds ++ rest).foldlM Parse.step ⟨.items done :: stack, .value orClose⟩ =
      rest.foldlM Parse.step ⟨.items (ds.reverse ++ done) :: stack, .next⟩ := by
  induction ds generalizing done orClose with
  | nil => exact absurd rfl hne
  | cons d ds ih =>
    have hd := hds d List.mem_cons_self
    cases ds with
    | nil =>
      rw [itemTokens, hd, Parse.complete, Option.bind_some, List.reverse_singleton,
        List.singleton_append]
    | cons e es =>
      have hcomma : Parse.step ⟨.items (d :: done) :: stack, .next⟩ .comma =
          some ⟨.items (d :: done) :: stack, .value false⟩ := rfl
      rw [itemTokens, List.append_assoc, hd, Parse.complete, Option.bind_some, List.cons_append,
        foldlM_step_cons hcomma,
        ih (fun x hx => hds x (List.mem_cons_of_mem d hx)) (List.cons_ne_nil e es),
        List.reverse_cons (a := d), List.append_assoc, List.singleton_append]
      exact List.cons_ne_nil e es

theorem foldlM_memberTokens {ms : List (Literal × Document)} (hms : ∀ m ∈ ms, Reads m.2)
    (hne : ms ≠ []) (done : List (Literal × Document)) (stack : List Frame) (orClose : Bool)
    (rest : List Token) :
    (memberTokens ms ++ rest).foldlM Parse.step ⟨.members done :: stack, .key orClose⟩ =
      rest.foldlM Parse.step ⟨.members (ms.reverse ++ done) :: stack, .next⟩ := by
  induction ms generalizing done orClose with
  | nil => exact absurd rfl hne
  | cons m ms ih =>
    obtain ⟨k, d⟩ := m
    have hd : Reads d := hms (k, d) List.mem_cons_self
    have hkey : Parse.step ⟨.members done :: stack, .key orClose⟩ (.text k) =
        some ⟨.member done k :: stack, .colon⟩ := rfl
    have hcolon : Parse.step ⟨.member done k :: stack, .colon⟩ .colon =
        some ⟨.member done k :: stack, .value false⟩ := rfl
    cases ms with
    | nil =>
      rw [memberTokens, List.cons_append, foldlM_step_cons hkey, List.cons_append,
        foldlM_step_cons hcolon, hd, Parse.complete, Option.bind_some, List.reverse_singleton,
        List.singleton_append]
    | cons e es =>
      have hcomma : Parse.step ⟨.members ((k, d) :: done) :: stack, .next⟩ .comma =
          some ⟨.members ((k, d) :: done) :: stack, .key false⟩ := rfl
      rw [memberTokens, List.cons_append, List.cons_append, List.cons_append,
        foldlM_step_cons hkey, List.cons_append, foldlM_step_cons hcolon, List.append_assoc, hd,
        Parse.complete, Option.bind_some, List.cons_append, foldlM_step_cons hcomma,
        ih (fun x hx => hms x (List.mem_cons_of_mem _ hx)) (List.cons_ne_nil e es),
        List.reverse_cons (a := (k, d)), List.append_assoc, List.singleton_append]
      exact List.cons_ne_nil e es

theorem reads_array {ds : List Document} (hds : ∀ d ∈ ds, Reads d) : Reads (.array ds) := by
  intro stack orClose rest
  have hopen : Parse.step ⟨stack, .value orClose⟩ .openArray =
      some ⟨.items [] :: stack, .value true⟩ := rfl
  rw [tokens, List.append_assoc, List.cons_append, foldlM_step_cons hopen]
  cases ds with
  | nil => rfl
  | cons d ds =>
    rw [foldlM_itemTokens hds (List.cons_ne_nil d ds), List.singleton_append, foldlM_closeArray,
      List.append_nil, List.reverse_reverse]

theorem reads_object {ms : List (Literal × Document)} (hms : ∀ m ∈ ms, Reads m.2) :
    Reads (.object ms) := by
  intro stack orClose rest
  have hopen : Parse.step ⟨stack, .value orClose⟩ .openObject =
      some ⟨.members [] :: stack, .key true⟩ := rfl
  rw [tokens, List.append_assoc, List.cons_append, foldlM_step_cons hopen]
  cases ms with
  | nil => rfl
  | cons m ms =>
    rw [foldlM_memberTokens hms (List.cons_ne_nil m ms), List.singleton_append, foldlM_closeObject,
      List.append_nil, List.reverse_reverse]

theorem reads (d : Document) : Reads d := by
  cases d with
  | null => exact fun _ _ _ => rfl
  | bool => exact fun _ _ _ => rfl
  | number => exact fun _ _ _ => rfl
  | text => exact fun _ _ _ => rfl
  | array items => exact reads_array fun d hd => reads d
  | object members => exact reads_object fun m hm => reads m.2
termination_by sizeOf d
decreasing_by
  · have := List.sizeOf_lt_of_mem hd
    simp only [Tree.array.sizeOf_spec]
    omega
  · obtain ⟨k, d⟩ := m
    have := List.sizeOf_lt_of_mem hm
    simp only [Tree.object.sizeOf_spec, Prod.mk.sizeOf_spec] at this ⊢
    omega

theorem ofTokens?_tokens (d : Document) : ofTokens? d.tokens = some d := by
  have hread := reads d [] false []
  rw [List.append_nil] at hread
  rw [ofTokens?, hread]
  rfl

/-- The items so far, each with the comma after it. -/
def itemsRead (done : List Document) : List Token :=
  done.reverse.flatMap fun d => d.tokens ++ [.comma]

def membersRead (done : List (Literal × Document)) : List Token :=
  done.reverse.flatMap fun m => .text m.1 :: .colon :: (m.2.tokens ++ [.comma])

/-- What has been read of an array or object in which something is due. -/
def Frame.read : Frame → List Token
  | .items done => .openArray :: itemsRead done
  | .members done => .openObject :: membersRead done
  | .member done key => .openObject :: (membersRead done ++ [.text key, .colon])

/-- The innermost array or object comes last. -/
def stackRead : List Frame → List Token
  | [] => []
  | f :: stack => stackRead stack ++ f.read

/-- What has been read when the parser has come here. An array or object may end while it is empty,
or after something in it. -/
inductive Parse.Read : Parse → List Token → Prop where
  | value {stack : List Frame} {orClose : Bool}
      (h : orClose = true → ∃ rest, stack = .items [] :: rest) :
    Read ⟨stack, .value orClose⟩ (stackRead stack)
  | key {done : List (Literal × Document)} {stack : List Frame} {orClose : Bool}
      (h : orClose = true → done = []) :
    Read ⟨.members done :: stack, .key orClose⟩ (stackRead (.members done :: stack))
  | colon {done : List (Literal × Document)} {k : Literal} {stack : List Frame} :
    Read ⟨.member done k :: stack, .colon⟩ (stackRead (.members done :: stack) ++ [.text k])
  | item {d : Document} {done : List Document} {stack : List Frame} :
    Read ⟨.items (d :: done) :: stack, .next⟩ (stackRead (.items done :: stack) ++ d.tokens)
  | member {k : Literal} {d : Document} {done : List (Literal × Document)} {stack : List Frame} :
    Read ⟨.members ((k, d) :: done) :: stack, .next⟩
      (stackRead (.member done k :: stack) ++ d.tokens)
  | finished {d : Document} : Read ⟨[], .finished d⟩ d.tokens

theorem itemTokens_append (ds : List Document) (d : Document) :
    itemTokens (ds ++ [d]) = ds.flatMap (fun d => d.tokens ++ [.comma]) ++ d.tokens := by
  induction ds with
  | nil => rfl
  | cons e es ih =>
    have hne : es ++ [d] ≠ [] := List.append_ne_nil_of_right_ne_nil es (List.cons_ne_nil d [])
    rw [List.cons_append, itemTokens.eq_3 _ _ hne, ih, List.flatMap_cons, List.append_assoc,
      List.append_assoc, List.singleton_append]

theorem memberTokens_append (ms : List (Literal × Document)) (k : Literal) (d : Document) :
    memberTokens (ms ++ [(k, d)]) =
      ms.flatMap (fun m => .text m.1 :: .colon :: (m.2.tokens ++ [.comma])) ++ .text k :: .colon ::
        d.tokens := by
  induction ms with
  | nil => rfl
  | cons m ms ih =>
    have hne : ms ++ [(k, d)] ≠ [] := List.append_ne_nil_of_right_ne_nil ms (List.cons_ne_nil _ [])
    rw [List.cons_append, memberTokens.eq_3 _ _ _ hne, ih, List.flatMap_cons, List.append_assoc]
    simp only [List.cons_append, List.append_assoc, List.nil_append]

theorem tokens_array (d : Document) (done : List Document) :
    tokens (.array (d :: done).reverse) = .openArray ::
      (itemsRead done ++ d.tokens ++ [.closeArray]) := by
  rw [List.reverse_cons, tokens, itemTokens_append, itemsRead]
  rfl

theorem tokens_object (k : Literal) (d : Document) (done : List (Literal × Document)) :
    tokens (.object ((k, d) :: done).reverse) =
      .openObject :: (membersRead done ++ .text k :: .colon :: d.tokens ++ [.closeObject]) := by
  rw [List.reverse_cons, tokens, memberTokens_append, membersRead]
  rfl

theorem read_items_cons (d : Document) (done : List Document) :
    (Frame.items (d :: done)).read = (Frame.items done).read ++ d.tokens ++ [.comma] := by
  simp only [Frame.read, itemsRead, List.reverse_cons, List.flatMap_append, List.flatMap_singleton,
    List.cons_append, List.append_assoc]

theorem read_members_cons (k : Literal) (d : Document) (done : List (Literal × Document)) :
    (Frame.members ((k, d) :: done)).read = (Frame.member done k).read ++ d.tokens ++ [.comma] := by
  simp only [Frame.read, membersRead, List.reverse_cons, List.flatMap_append,
    List.flatMap_singleton, List.cons_append, List.nil_append, List.append_assoc]

variable {p q : Parse} {ts : List Token} {t : Token}

theorem read_of_complete {d : Document} {stack : List Frame} (h : Parse.complete d stack = some q) :
    q.Read (stackRead stack ++ d.tokens) := by
  unfold Parse.complete at h
  split at h
  · cases h
    exact .finished
  · cases h
    exact .item
  · cases h
    exact .member
  · contradiction

theorem read_of_value {stack : List Frame} {orClose : Bool}
    (hempty : orClose = true → ∃ rest, stack = .items [] :: rest)
    (h : Parse.value stack orClose t = some q) : q.Read (stackRead stack ++ [t]) := by
  cases t with
  | null => exact read_of_complete h
  | bool b => exact read_of_complete h
  | number n => exact read_of_complete h
  | text l => exact read_of_complete h
  | openArray =>
    cases h
    exact .value fun _ => ⟨stack, rfl⟩
  | openObject =>
    cases h
    exact .key fun _ => rfl
  | closeArray =>
    cases orClose with
    | false => contradiction
    | true =>
      obtain ⟨stack, rfl⟩ := hempty rfl
      have hread := read_of_complete (d := .array []) h
      rw [stackRead, List.append_assoc]
      exact hread
  | _ => contradiction

theorem Parse.Read.step (h : p.Read ts) (hstep : p.step t = some q) : q.Read (ts ++ [t]) := by
  cases h with
  | value hempty => exact read_of_value hempty hstep
  | @key done stack orClose hempty =>
    cases t with
    | text l =>
      cases hstep
      exact .colon
    | closeObject =>
      cases orClose with
      | false => contradiction
      | true =>
        obtain rfl := hempty rfl
        have hread := read_of_complete (d := .object []) hstep
        rw [stackRead, List.append_assoc]
        exact hread
    | _ => cases orClose <;> contradiction
  | @colon done k stack =>
    cases t with
    | colon =>
      cases hstep
      have hread : Read ⟨.member done k :: stack, .value false⟩ _ := .value nofun
      rw [stackRead, Frame.read] at hread
      simpa only [stackRead, Frame.read, List.append_assoc, List.cons_append, List.nil_append]
        using hread
    | _ => contradiction
  | @item d done stack =>
    cases t with
    | comma =>
      cases hstep
      have hread : Read ⟨.items (d :: done) :: stack, .value false⟩ _ := .value nofun
      rw [stackRead, read_items_cons] at hread
      simpa only [stackRead, List.append_assoc] using hread
    | closeArray =>
      have hread := read_of_complete (d := .array (d :: done).reverse) hstep
      rw [tokens_array] at hread
      simpa only [stackRead, Frame.read, List.append_assoc, List.cons_append] using hread
    | _ => contradiction
  | @member k d done stack =>
    cases t with
    | comma =>
      cases hstep
      have hread : Read ⟨.members ((k, d) :: done) :: stack, .key false⟩ _ := .key nofun
      rw [stackRead, read_members_cons] at hread
      simpa only [stackRead, List.append_assoc] using hread
    | closeObject =>
      have hread := read_of_complete (d := .object ((k, d) :: done).reverse) hstep
      rw [tokens_object] at hread
      simpa only [stackRead, Frame.read, List.append_assoc, List.cons_append, List.nil_append]
        using hread
    | _ => contradiction
  | finished => contradiction

theorem read_of_foldlM {rest : List Token} (h : p.Read ts)
    (hrest : rest.foldlM Parse.step p = some q) :
    q.Read (ts ++ rest) := by
  induction rest generalizing p ts with
  | nil =>
    cases hrest
    rwa [List.append_nil]
  | cons t rest ih =>
    rw [List.foldlM_cons, Option.bind_eq_bind, Option.bind_eq_some_iff] at hrest
    obtain ⟨next, hnext, hrest⟩ := hrest
    have hread := ih (h.step hnext) hrest
    rwa [List.append_assoc, List.singleton_append] at hread

/-- The parser takes the tokens of one document each. -/
theorem ofTokens?_eq_some_iff {d : Document} : ofTokens? ts = some d ↔ ts = d.tokens := by
  constructor
  · intro h
    unfold ofTokens? at h
    split at h
    · rename_i hfold
      obtain rfl := Option.some.inj h
      have hstart : Parse.Read ⟨[], .value false⟩ [] := .value nofun
      have hread := read_of_foldlM hstart hfold
      cases hread
      rfl
    · contradiction
  · rintro rfl
    exact ofTokens?_tokens d

end ExportLedger.Json.Document
