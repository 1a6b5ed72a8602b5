import BlockPipeline.Port

/-!
# Handles read back

A handle that was accepted on a side names that side and a port, and its text is read back as
the handle itself. The port may hold any text: the word in front of the first colon is `in` or
`out`, neither of which has a colon, so the split at the first colon gives the port unchanged.

| Statement | In words |
| --- | --- |
| `Handle.onSide?_eq_some_iff` | what is accepted on a side: a text that names a port and not the other side |
| `Handle.onSide?_iff_names` | the same in terms of the text (`Handle.Names`): a bare name, or what stands behind the first colon |
| `Handle.ofText?_text_on` | the text of a handle with a side and a port is read back |
| `Handle.onSide?_text` | and is accepted on that side |
| `Handle.onSide?_opposite_text` | but not on the other |
-/

set_option autoImplicit false

namespace BlockPipeline.Handle

/-! ## Splitting at the first colon -/

/-- What has no colon in front of one is what stands in front of the first. -/
theorem splitColon_append {front : List Char} (h : ':' ∉ front) (back : List Char) :
    splitColon (front ++ ':' :: back) = some (front, back) := by
  induction front with
  | nil => simp only [List.nil_append, splitColon, ↓reduceIte]
  | cons c front ih =>
    obtain ⟨hc, hfront⟩ := not_or.mp (mt List.mem_cons.mpr h)
    simp only [List.cons_append, splitColon, if_neg (Ne.symm hc), ih hfront, Option.map_some]

/-- The split is at the first colon. -/
theorem splitColon_eq_some_iff {text front back : List Char} :
    splitColon text = some (front, back) ↔ ':' ∉ front ∧ text = front ++ ':' :: back := by
  constructor
  · intro split
    induction text generalizing front with
    | nil => cases split
    | cons c text ih =>
      by_cases colon : c = ':'
      · simp only [splitColon, if_pos colon, Option.some.injEq, Prod.mk.injEq] at split
        obtain ⟨rfl, rfl⟩ := split
        exact ⟨List.not_mem_nil, by rw [colon, List.nil_append]⟩
      · simp only [splitColon, if_neg colon, Option.map_eq_some_iff, Prod.mk.injEq] at split
        obtain ⟨⟨rest, back'⟩, split, rfl, rfl⟩ := split
        obtain ⟨plain, rfl⟩ := ih split
        refine ⟨fun mem => ?_, rfl⟩
        exact (List.mem_cons.mp mem).elim (fun same => colon same.symm) plain
  · rintro ⟨plain, rfl⟩
    exact splitColon_append plain back

/-- There is nothing to split exactly if there is no colon. -/
theorem splitColon_eq_none_iff {text : List Char} : splitColon text = none ↔ ':' ∉ text := by
  constructor
  · intro whole colon
    obtain ⟨front, back, rfl, plain⟩ := List.eq_append_cons_of_mem colon
    rw [splitColon_append plain] at whole
    cases whole
  · intro plain
    cases split : splitColon text with
    | none => rfl
    | some parts =>
      obtain ⟨-, rfl⟩ := splitColon_eq_some_iff.mp split
      exact absurd (List.mem_append_right _ List.mem_cons_self) plain

/-- No side is named by a word with a colon. -/
theorem colon_not_mem_word (side : Side) : ':' ∉ side.word.toList := by
  cases side <;> decide

/-- The word of a side names it. -/
theorem sideOfWord_word (side : Side) : sideOfWord side.word.toList = some side := by
  cases side <;> decide

/-! ## Reading a text -/

/-- A handle that is read names a port. -/
theorem port_ne_of_ofText? {text : String} {h : Handle} (read : ofText? text = some h) :
    h.port ≠ "" := by
  unfold ofText? at read
  obtain ⟨named, heq⟩ := Option.ite_none_left_eq_some.mp read
  cases heq
  exact named

/-- **The text of a handle is read back**: a port is read as it stands, whatever colons and words
it holds. -/
theorem ofText?_text_on (side : Side) {port : String} (named : port ≠ "") :
    ofText? (on side port).text = some (on side port) := by
  have split : splitColon (on side port).text.toList = some (side.word.toList, port.toList) := by
    have parts : (on side port).text.toList = side.word.toList ++ ':' :: port.toList := by
      simp only [text, on, String.toList_append, List.append_assoc]
      rfl
    rw [parts, splitColon_append (colon_not_mem_word side)]
  simp only [ofText?, split, sideOfWord_word, String.ofList_toList, if_neg named]
  rfl

/-- **What a side accepts**: a text that is read as a handle of this side or of none; the handle
gets the side. -/
theorem onSide?_eq_some_iff {side : Side} {text : String} {h : Handle} :
    onSide? side text = some h ↔
      ∃ read, ofText? text = some read ∧ (read.side = none ∨ read.side = some side) ∧
        h = on side read.port := by
  unfold onSide?
  cases ofText? text with
  | none => simp only [reduceCtorEq, false_and, exists_false]
  | some read =>
    cases hside : read.side with
    | none => simp [hside, eq_comm]
    | some s => by_cases hs : s = side <;> simp [hside, hs, eq_comm]

/-- **The port that a text names on a side**: a bare name, or what stands behind the first colon,
where the word in front of it is not that of the other side. A port has a name. -/
inductive Names (side : Side) : String → String → Prop
  | bare {port : String} (plain : ':' ∉ port.toList) (named : port ≠ "") : Names side port port
  | worded {word port : String} (plain : ':' ∉ word.toList) (here : word ≠ side.opposite.word)
    (named : port ≠ "") : Names side (word ++ ":" ++ port) port

theorem sideOfWord_eq_some_iff {word : String} {side : Side} :
    sideOfWord word.toList = some side ↔ word = side.word := by
  constructor
  · intro found
    unfold sideOfWord at found
    split at found
    next same =>
      cases found
      exact String.toList_inj.mp same
    next =>
      split at found
      next same =>
        cases found
        exact String.toList_inj.mp same
      next => cases found
  · rintro rfl
    exact sideOfWord_word side

/-- A word is that of a side or of none exactly if it is not that of the other side. -/
theorem sideOfWord_cases {word : String} {side : Side} :
    (sideOfWord word.toList = none ∨ sideOfWord word.toList = some side) ↔
      word ≠ side.opposite.word := by
  rw [ne_eq, ← sideOfWord_eq_some_iff]
  cases sideOfWord word.toList with
  | none => simp
  | some found => cases found <;> cases side <;> simp [Side.opposite]

/-- **A side accepts exactly the texts that name a port on it.** -/
theorem onSide?_iff_names {side : Side} {text port : String} :
    onSide? side text = some (on side port) ↔ Names side text port := by
  rw [onSide?_eq_some_iff]
  constructor
  · rintro ⟨read, hread, here, same⟩
    obtain rfl : port = read.port := congrArg Handle.port same
    have named := port_ne_of_ofText? hread
    unfold ofText? at hread
    cases split : splitColon text.toList with
    | none =>
      rw [split] at hread
      obtain ⟨-, heq⟩ := Option.ite_none_left_eq_some.mp hread
      cases heq
      exact .bare (splitColon_eq_none_iff.mp split) named
    | some parts =>
      obtain ⟨front, back⟩ := parts
      rw [split] at hread
      obtain ⟨-, heq⟩ := Option.ite_none_left_eq_some.mp hread
      cases heq
      obtain ⟨plain, whole⟩ := splitColon_eq_some_iff.mp split
      have text_eq : text = String.ofList front ++ ":" ++ String.ofList back := by
        apply String.toList_inj.mp
        simp [whole]
      rw [text_eq]
      refine .worded (by simpa using plain) (sideOfWord_cases.mp ?_) named
      simpa using here
  · intro names
    cases names with
    | bare plain named =>
      refine ⟨⟨none, text⟩, ?_, .inl rfl, rfl⟩
      simp only [ofText?, splitColon_eq_none_iff.mpr plain, if_neg named]
    | @worded word _ plain here named =>
      refine ⟨⟨sideOfWord word.toList, port⟩, ?_, sideOfWord_cases.mpr here, rfl⟩
      have split : splitColon (word ++ ":" ++ port).toList = some (word.toList, port.toList) := by
        refine splitColon_eq_some_iff.mpr ⟨plain, ?_⟩
        simp
      simp only [ofText?, split, String.ofList_toList, if_neg named]

theorem onSide?_eq_some_iff_names {side : Side} {text : String} {h : Handle} :
    onSide? side text = some h ↔ ∃ port, Names side text port ∧ h = on side port := by
  constructor
  · intro found
    obtain ⟨read, -, -, rfl⟩ := onSide?_eq_some_iff.mp found
    exact ⟨read.port, onSide?_iff_names.mp found, rfl⟩
  · rintro ⟨port, names, rfl⟩
    exact onSide?_iff_names.mpr names

theorem onSide?_eq_none_iff_names {side : Side} {text : String} :
    onSide? side text = none ↔ ∀ port, ¬ Names side text port := by
  rw [Option.eq_none_iff_forall_ne_some]
  constructor
  · intro unread port names
    exact unread _ (onSide?_iff_names.mpr names)
  · intro unnamed h found
    obtain ⟨port, names, -⟩ := onSide?_eq_some_iff_names.mp found
    exact unnamed port names

/-- A text names one port at most. -/
theorem Names.unique {side : Side} {text port other : String} (names : Names side text port)
    (also : Names side text other) : port = other := by
  have same := (onSide?_iff_names.mpr names).symm.trans (onSide?_iff_names.mpr also)
  exact congrArg Handle.port (Option.some.inj same)

/-- An accepted handle has the side on which it was accepted, and names a port. -/
theorem onSide?_some {side : Side} {text : String} {h : Handle} (read : onSide? side text = some h) :
    h.side = some side ∧ h.port ≠ "" := by
  obtain ⟨raw, hraw, -, rfl⟩ := onSide?_eq_some_iff.mp read
  have named : raw.port ≠ "" := port_ne_of_ofText? hraw
  exact ⟨rfl, named⟩

/-- **The text of a handle is accepted on its side** as that handle. -/
theorem onSide?_text {side : Side} {h : Handle} (hside : h.side = some side) (named : h.port ≠ "") :
    onSide? side h.text = some h := by
  obtain ⟨s, port⟩ := h
  cases hside
  exact onSide?_eq_some_iff.mpr ⟨_, ofText?_text_on side named, .inr rfl, rfl⟩

/-- **The text of a handle is refused on the other side**: it is read with the side that it has. -/
theorem onSide?_opposite_text {side : Side} {h : Handle} (hside : h.side = some side)
    (named : h.port ≠ "") : onSide? side.opposite h.text = none := by
  obtain ⟨s, port⟩ := h
  cases hside
  refine Option.eq_none_iff_forall_ne_some.mpr fun other accepted => ?_
  obtain ⟨read, hread, here, -⟩ := onSide?_eq_some_iff.mp accepted
  obtain rfl : on side port = read :=
    Option.some.inj ((ofText?_text_on side named).symm.trans hread)
  rcases here with bare | turned
  · cases bare
  · cases side <;> cases turned

end BlockPipeline.Handle
