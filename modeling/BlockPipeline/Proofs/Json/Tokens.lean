import BlockPipeline.Proofs.Json.Depth

/-!
# The tokens of a value

Which tokens a written value consists of (`Json.tokens`), and that they are built to the document of
that value, as long as it is not too deep (`Document.read_of_scan`). In the other direction a text
that is read as a number consists of that number alone (`FreeJson.scan_of_read_number`): whatever
opens a container stays one.
-/

set_option autoImplicit false

namespace BlockPipeline

namespace Json

mutual

/-- The tokens of a value. -/
def tokens : Json → List Token
  | .null => [.null]
  | .bool b => [.bool b]
  | .number n => [.number (some n)]
  | .string s => [.string (some s)]
  | .array items => .openArray :: (itemTokens items ++ [.closeArray])
  | .object members => .openObject :: (memberTokens members ++ [.closeObject])

def itemTokens : List Json → List Token
  | [] => []
  | [item] => item.tokens
  | item :: items => item.tokens ++ .comma :: itemTokens items

def memberTokens : List (String × Json) → List Token
  | [] => []
  | [(key, value)] => .string (some key) :: .colon :: value.tokens
  | (key, value) :: members =>
    .string (some key) :: .colon :: value.tokens ++ .comma :: memberTokens members

end

theorem itemTokens_cons_cons (item next : Json) (items : List Json) :
    itemTokens (item :: next :: items) = item.tokens ++ .comma :: itemTokens (next :: items) := by
  rw [itemTokens]
  exact nofun

theorem memberTokens_cons_cons (key : String) (value : Json) (next : String × Json)
    (members : List (String × Json)) :
    memberTokens ((key, value) :: next :: members) =
      .string (some key) :: .colon ::
        (value.tokens ++ .comma :: memberTokens (next :: members)) := by
  rw [memberTokens]
  · rfl
  · exact nofun

/-- An object that is not empty begins with a key. -/
theorem exists_memberTokens_cons (key : String) (value : Json) (members : List (String × Json)) :
    ∃ others, memberTokens ((key, value) :: members) = .string (some key) :: others := by
  cases members with
  | nil => exact ⟨_, rfl⟩
  | cons next members => exact ⟨_, memberTokens_cons_cons key value next members⟩

/-- No value begins with a closing bracket. -/
theorem exists_head?_tokens (value : Json) : ∃ token ∈ value.tokens.head?, token ≠ .closeArray := by
  cases value <;> simp [tokens]

theorem exists_head?_itemTokens (item : Json) (items : List Json) :
    ∃ token ∈ (itemTokens (item :: items)).head?, token ≠ .closeArray := by
  obtain ⟨token, mem, differ⟩ := item.exists_head?_tokens
  refine ⟨token, ?_, differ⟩
  cases items with
  | nil => exact mem
  | cons next items =>
    rw [itemTokens_cons_cons, List.head?_append, mem]
    rfl

end Json

namespace Document

/-! ## From tokens to the document -/

/-- A container inside fewer than `depthLimit` others is kept when it is closed. -/
theorem isEmpty_drop {outer : List Frame} (room : outer.length < depthLimit) :
    (outer.drop (depthLimit - 1)).isEmpty := by
  rw [List.isEmpty_iff, List.drop_eq_nil_iff]
  omega

theorem Build.close_array (items : List Document) {outer : List Frame}
    (room : outer.length < depthLimit) :
    Build.close (.array items :: outer) = .put outer (.array items.reverse none) := by
  rw [Build.close, Frame.seal, if_pos (isEmpty_drop room)]

theorem Build.close_object (members : List (Document × Document)) {outer : List Frame}
    (room : outer.length < depthLimit) :
    Build.close (.object members :: outer) = .put outer (.object members.reverse none) := by
  rw [Build.close, Frame.seal, if_pos (isEmpty_drop room)]

/-- Where a bracket may close the array, a value is read all the same. -/
theorem foldl_firstValue (stack : List Frame) {tokens : List Token}
    (first : ∃ token ∈ tokens.head?, token ≠ .closeArray) :
    tokens.foldl Build.step (.unfinished stack .firstValue) =
      tokens.foldl Build.step (.unfinished stack .value) := by
  obtain ⟨token, mem, differ⟩ := first
  cases tokens with
  | nil => cases mem
  | cons head tokens =>
    cases mem
    simp only [List.foldl_cons, Build.step, if_neg differ]

/-- Where a brace may close the object, a key is read all the same. -/
theorem foldl_firstName (stack : List Frame) (key : String) (tokens : List Token) :
    (.string (some key) :: tokens).foldl Build.step (.unfinished stack .firstName) =
      (.string (some key) :: tokens).foldl Build.step (.unfinished stack .name) := rfl

/-- A key and a colon lead to the member's value. -/
theorem foldl_name (done : List (Document × Document)) (outer : List Frame) (key : String)
    (tokens : List Token) :
    (.string (some key) :: .colon :: tokens).foldl Build.step
        (.unfinished (.object done :: outer) .name) =
      tokens.foldl Build.step (.unfinished (.member done (.string key) :: outer) .value) := rfl

mutual

/-- **The tokens of a value are built to its document.** -/
theorem foldl_tokens : ∀ (value : Json) (stack : List Frame),
    stack.length + value.depth ≤ depthLimit →
    value.tokens.foldl Build.step (.unfinished stack .value) = Build.put stack (ofJson value)
  | .null, _, _ | .bool _, _, _ | .number _, _, _ | .string _, _, _ => rfl
  | .array [], stack, room => Build.close_array [] room
  | .array (item :: items), stack, room => by
    have fits : stack.length + 1 + BlockPipeline.itemsDepth (item :: items) ≤ depthLimit := by
      simp only [Json.depth] at room
      omega
    have first := Json.exists_head?_itemTokens item items
    rw [Json.tokens, List.foldl_cons, List.foldl_append, Build.step, Build.value,
      foldl_firstValue _ first, foldl_itemTokens _ [] stack (List.cons_ne_nil _ _) fits]
    have closed := Build.close_array ((ofItems (item :: items)).reverse ++ [])
      (show stack.length < depthLimit by omega)
    rw [List.append_nil, List.reverse_reverse] at closed
    rw [List.append_nil]
    exact closed
  | .object [], stack, room => Build.close_object [] room
  | .object ((key, value) :: members), stack, room => by
    have fits : stack.length + 1 + BlockPipeline.membersDepth ((key, value) :: members) ≤
        depthLimit := by
      simp only [Json.depth] at room
      omega
    have built := foldl_memberTokens _ [] stack (List.cons_ne_nil _ _) fits
    obtain ⟨others, first⟩ := Json.exists_memberTokens_cons key value members
    rw [first, ← foldl_firstName, ← first] at built
    have closed := Build.close_object ((ofMembers ((key, value) :: members)).reverse ++ [])
      (show stack.length < depthLimit by omega)
    rw [List.append_nil, List.reverse_reverse] at closed
    rw [Json.tokens, List.foldl_cons, List.foldl_append, Build.step, Build.value, built,
      List.append_nil]
    exact closed

theorem foldl_itemTokens : ∀ (items : List Json) (done : List Document) (outer : List Frame),
    items ≠ [] → outer.length + 1 + BlockPipeline.itemsDepth items ≤ depthLimit →
    (Json.itemTokens items).foldl Build.step (.unfinished (.array done :: outer) .value) =
      .unfinished (.array ((ofItems items).reverse ++ done) :: outer) .separator
  | [item], done, outer, _, room => by
    have fits : (Frame.array done :: outer).length + item.depth ≤ depthLimit := by
      simp only [BlockPipeline.itemsDepth, List.length_cons] at room ⊢
      omega
    exact foldl_tokens item _ fits
  | item :: next :: items, done, outer, _, room => by
    have fits : (Frame.array done :: outer).length + item.depth ≤ depthLimit := by
      simp only [BlockPipeline.itemsDepth, List.length_cons] at room ⊢
      omega
    have others : outer.length + 1 + BlockPipeline.itemsDepth (next :: items) ≤ depthLimit := by
      rw [BlockPipeline.itemsDepth] at room
      omega
    rw [Json.itemTokens_cons_cons, List.foldl_append, List.foldl_cons, foldl_tokens item _ fits]
    refine (foldl_itemTokens (next :: items) (ofJson item :: done) outer
      (List.cons_ne_nil _ _) others).trans ?_
    simp only [ofItems, List.reverse_cons, List.append_assoc, List.cons_append, List.nil_append]

theorem foldl_memberTokens : ∀ (members : List (String × Json)) (done : List (Document × Document))
    (outer : List Frame),
    members ≠ [] → outer.length + 1 + BlockPipeline.membersDepth members ≤ depthLimit →
    (Json.memberTokens members).foldl Build.step (.unfinished (.object done :: outer) .name) =
      .unfinished (.object ((ofMembers members).reverse ++ done) :: outer) .separator
  | [(key, value)], done, outer, _, room => by
    have fits : (Frame.member done (.string key) :: outer).length + value.depth ≤ depthLimit := by
      simp only [BlockPipeline.membersDepth, List.length_cons] at room ⊢
      omega
    exact foldl_tokens value _ fits
  | (key, value) :: next :: members, done, outer, _, room => by
    have fits : (Frame.member done (.string key) :: outer).length + value.depth ≤ depthLimit := by
      simp only [BlockPipeline.membersDepth, List.length_cons] at room ⊢
      omega
    have others : outer.length + 1 + BlockPipeline.membersDepth (next :: members) ≤ depthLimit := by
      rw [BlockPipeline.membersDepth] at room
      omega
    rw [Json.memberTokens_cons_cons, foldl_name, List.foldl_append, List.foldl_cons,
      foldl_tokens value _ fits]
    refine (foldl_memberTokens (next :: members) ((.string key, ofJson value) :: done) outer
      (List.cons_ne_nil _ _) others).trans ?_
    simp only [ofMembers, List.reverse_cons, List.append_assoc, List.cons_append, List.nil_append]

end

/-- **A text with the tokens of a value is read as its document**, with nothing wrong behind it. -/
theorem read_of_scan {text : String} {value : Json} (shallow : value.depth ≤ depthLimit)
    (scanned : Token.scan text.toList = value.tokens) : read text = (ofJson value, none) := by
  have room : ([] : List Frame).length + value.depth ≤ depthLimit := by simpa using shallow
  rw [read, scanned, foldl_tokens value [] room]
  rfl

/-! ## From a number back to its token -/

/-- The document is a container, or will be one. -/
def Build.Nested : Build → Prop
  | .unfinished stack _ => stack ≠ []
  | .finished root _ => 0 < root.depth

/-- The outermost container is always kept. -/
theorem depth_seal_nil (frame : Frame) (cut : Option Fault) : 0 < (frame.seal [] cut).depth := by
  cases frame <;> exact Nat.succ_pos _

theorem depth_cutOff_pos (fault : Fault) {stack : List Frame} (nested : stack ≠ [])
    (value : Document) : 0 < (cutOff fault stack value).depth := by
  induction stack generalizing value with
  | nil => exact absurd rfl nested
  | cons frame outer ih =>
    cases outer with
    | nil => exact depth_seal_nil _ _
    | cons next outer => exact ih (List.cons_ne_nil _ _) _

section Nested

variable {stack : List Frame}

theorem Build.nested_put (nested : stack ≠ []) (value : Document) :
    (Build.put stack value).Nested := by
  cases stack with
  | nil => exact absurd rfl nested
  | cons frame outer => exact List.cons_ne_nil _ _

theorem Build.nested_close (nested : stack ≠ []) : (Build.close stack).Nested := by
  match stack with
  | [] => exact absurd rfl nested
  | [frame] => exact depth_seal_nil frame _
  | _ :: _ :: _ => exact Build.nested_put (List.cons_ne_nil _ _) _

theorem Build.nested_breakOff (nested : stack ≠ []) (fault : Fault) :
    (Build.breakOff stack fault).Nested := by
  match stack with
  | [] => exact absurd rfl nested
  | [frame] => exact depth_seal_nil frame _
  | _ :: _ :: _ => exact depth_cutOff_pos _ (List.cons_ne_nil _ _) _

theorem Build.nested_value (nested : stack ≠ []) (token : Token) :
    (Build.value stack token).Nested := by
  unfold Build.value
  split
  · exact List.cons_ne_nil _ _
  · exact List.cons_ne_nil _ _
  · exact depth_cutOff_pos _ nested _
  · exact depth_cutOff_pos _ nested _
  · split
    · exact Build.nested_put nested _
    · exact depth_cutOff_pos _ nested _

theorem Build.nested_name (nested : stack ≠ []) (token : Token) :
    (Build.name stack token).Nested := by
  have named : ∀ name, (Build.putName stack name).Nested := by
    cases stack with
    | nil => exact absurd rfl nested
    | cons frame outer => exact fun _ => List.cons_ne_nil _ _
  unfold Build.name
  split
  · exact named _
  · exact named _
  · exact depth_cutOff_pos _ nested _
  · exact depth_cutOff_pos _ nested _

theorem Build.nested_separate (nested : stack ≠ []) (token : Token) :
    (Build.separate stack token).Nested := by
  unfold Build.separate
  split
  · exact nested
  · exact Build.nested_close nested
  · exact nested
  · exact Build.nested_close nested
  · exact Build.nested_breakOff nested _

end Nested

/-- **What is in a container stays in it.** -/
theorem Build.Nested.step {build : Build} (nested : build.Nested) (token : Token) :
    (build.step token).Nested := by
  cases build with
  | finished root trailing => exact nested
  | unfinished stack expect =>
    cases expect with
    | value => exact Build.nested_value nested token
    | firstValue =>
      simp only [Build.step]
      split
      · exact Build.nested_close nested
      · exact Build.nested_value nested token
    | name => exact Build.nested_name nested token
    | firstName =>
      simp only [Build.step]
      split
      · exact Build.nested_close nested
      · exact Build.nested_name nested token
    | colon =>
      simp only [Build.step]
      split
      · exact nested
      · exact Build.nested_breakOff nested _
    | separator => exact Build.nested_separate nested token

theorem Build.Nested.foldl {build : Build} (nested : build.Nested) (tokens : List Token) :
    (tokens.foldl Build.step build).Nested := by
  induction tokens generalizing build with
  | nil => exact nested
  | cons token tokens ih => exact ih (nested.step token)

theorem Build.Nested.finish {build : Build} (nested : build.Nested) : 0 < build.finish.1.depth := by
  cases build with
  | finished root trailing => exact nested
  | unfinished stack expect =>
    cases expect with
    | value | name => exact depth_cutOff_pos _ nested _
    | firstValue | firstName | colon | separator =>
      rcases stack with _ | ⟨frame, _ | ⟨_, _⟩⟩
      · exact absurd rfl nested
      · exact depth_seal_nil frame _
      · exact depth_cutOff_pos _ (List.cons_ne_nil _ _) _

/-- A document that is finished keeps its root, and is faulty as soon as a token follows. -/
theorem foldl_finished (root : Document) (trailing : Option Fault) (tokens : List Token) :
    ∃ behind, tokens.foldl Build.step (.finished root trailing) = .finished root behind ∧
      (behind = none → tokens = []) := by
  induction tokens generalizing trailing with
  | nil => exact ⟨trailing, rfl, fun _ => rfl⟩
  | cons token tokens ih =>
    obtain ⟨behind, same, last⟩ := ih (some (trailing.getD .malformed))
    refine ⟨behind, same, fun none' => ?_⟩
    obtain rfl := last none'
    cases none' ▸ same

/-- Only a number is read as a number. -/
theorem free_eq_number {doc : Document} {n : Number} (found : doc.free = .ok (.number n)) :
    doc = .number n := by
  cases doc with
  | number m =>
    have same : FreeJson.number m = .number n := Except.ok.inj found
    cases same
    rfl
  | array items cut =>
    simp only [free, bind_eq_ok] at found
    obtain ⟨values, -, -, -, same⟩ := found
    cases same
  | object members cut =>
    simp only [free, bind_eq_ok] at found
    obtain ⟨values, -, -, -, same⟩ := found
    cases same
  | _ => cases found

/-- Where a text is read as a number, that number is its only token. -/
theorem tokens_of_finish_number {tokens : List Token} {n : Number}
    (found : (tokens.foldl Build.step (.unfinished [] .value)).finish = (.number n, none)) :
    tokens = [.number (some n)] := by
  cases tokens with
  | nil => cases found
  | cons token tokens =>
    -- a token in front that opens a container or is broken leads to no number
    have alone : ∀ root trailing, Build.value [] token = .finished root trailing →
        root = .number n ∧ trailing = none ∧ tokens = [] := by
      intro root trailing first
      obtain ⟨behind, built, last⟩ := foldl_finished root trailing tokens
      have whole : (tokens.foldl Build.step (Build.value [] token)).finish = (.number n, none) :=
        found
      rw [first, built] at whole
      cases whole
      obtain rfl := last rfl
      cases built
      exact ⟨rfl, rfl, rfl⟩
    have opens : ∀ frame expect, Build.value [] token ≠ .unfinished [frame] expect := by
      intro frame expect first
      have nested : (Build.unfinished [frame] expect).Nested := List.cons_ne_nil _ _
      have deep := (nested.foldl tokens).finish
      rw [← first] at deep
      exact absurd (found ▸ deep) (by simp [depth])
    cases token with
    | openArray => exact absurd rfl (opens _ _)
    | openObject => exact absurd rfl (opens _ _)
    | number value =>
      cases value with
      | none => cases (alone _ _ rfl).1
      | some m =>
        obtain ⟨same, -, rfl⟩ := alone _ _ rfl
        cases same
        rfl
    | string value => cases value <;> cases (alone _ _ rfl).1
    | _ => cases (alone _ _ rfl).1

end Document

/-- **A text that is read as a number consists of it.** -/
theorem FreeJson.scan_of_read_number {text : String} {n : Number}
    (found : FreeJson.read text = .ok (.number n)) :
    Token.scan text.toList = [.number (some n)] := by
  simp only [FreeJson.read, bind_eq_ok] at found
  obtain ⟨value, free, ⟨⟩, clean, same⟩ := found
  cases same
  have root := Document.free_eq_number free
  have trailing : (Document.read text).2 = none := by
    cases behind : (Document.read text).2 with
    | none => rfl
    | some fault =>
      rw [behind] at clean
      cases clean
  exact Document.tokens_of_finish_number (Prod.ext root trailing)

end BlockPipeline
