import BlockPipeline.Proofs.Fallible
import BlockPipeline.Proofs.Json.Normal

/-!
# How deep values are nested

A container is one level deeper than what is in it. Reading keeps to `depthLimit` levels: a
container inside as many others is not kept, so whatever text is read, the document is no deeper
than that (`Document.read_depth_le`). And a free value is no deeper than the document that it is
read from (`Document.free_depth_le`).
-/

set_option autoImplicit false

namespace BlockPipeline

/-! ## The depth of values and documents -/

mutual

/-- The number of containers inside one another. -/
def Json.depth : Json → Nat
  | .array items => itemsDepth items + 1
  | .object members => membersDepth members + 1
  | _ => 0

def itemsDepth : List Json → Nat
  | [] => 0
  | item :: items => max item.depth (itemsDepth items)

def membersDepth : List (String × Json) → Nat
  | [] => 0
  | (_, value) :: members => max value.depth (membersDepth members)

end

theorem itemsDepth_le_iff {items : List Json} {n : Nat} :
    itemsDepth items ≤ n ↔ ∀ item ∈ items, item.depth ≤ n := by
  induction items with
  | nil => simp [itemsDepth]
  | cons item items ih => rw [itemsDepth, Nat.max_le, ih, List.forall_mem_cons]

theorem membersDepth_le_iff {members : List (String × Json)} {n : Nat} :
    membersDepth members ≤ n ↔ ∀ member ∈ members, member.2.depth ≤ n := by
  induction members with
  | nil => simp [membersDepth]
  | cons member members ih => rw [membersDepth, Nat.max_le, ih, List.forall_mem_cons]

namespace Document

mutual

/-- The number of containers inside one another; a mark is no container. -/
def depth : Document → Nat
  | .array items _ => itemsDepth items + 1
  | .object members _ => membersDepth members + 1
  | _ => 0

def itemsDepth : List Document → Nat
  | [] => 0
  | item :: items => max item.depth (itemsDepth items)

def membersDepth : List (Document × Document) → Nat
  | [] => 0
  | (key, value) :: members => max (max key.depth value.depth) (membersDepth members)

end

theorem itemsDepth_le_iff {items : List Document} {n : Nat} :
    itemsDepth items ≤ n ↔ ∀ item ∈ items, item.depth ≤ n := by
  induction items with
  | nil => simp [itemsDepth]
  | cons item items ih => rw [itemsDepth, Nat.max_le, ih, List.forall_mem_cons]

theorem membersDepth_le_iff {members : List (Document × Document)} {n : Nat} :
    membersDepth members ≤ n ↔
      ∀ member ∈ members, member.1.depth ≤ n ∧ member.2.depth ≤ n := by
  induction members with
  | nil => simp [membersDepth]
  | cons member members ih =>
    rw [membersDepth, Nat.max_le, Nat.max_le, ih, List.forall_mem_cons]

mutual

/-- A value is as deep as a document as it is as a value. -/
theorem depth_ofJson : ∀ value : Json, (ofJson value).depth = value.depth
  | .null | .bool _ | .number _ | .string _ => rfl
  | .array items => congrArg (· + 1) (itemsDepth_ofItems items)
  | .object members => congrArg (· + 1) (membersDepth_ofMembers members)

theorem itemsDepth_ofItems : ∀ items : List Json,
    itemsDepth (ofItems items) = BlockPipeline.itemsDepth items
  | [] => rfl
  | item :: items => congrArg₂ max (depth_ofJson item) (itemsDepth_ofItems items)

theorem membersDepth_ofMembers : ∀ members : List (String × Json),
    membersDepth (ofMembers members) = BlockPipeline.membersDepth members
  | [] => rfl
  | (key, value) :: members => by
    simp only [ofMembers, membersDepth, BlockPipeline.membersDepth, depth_ofJson value,
      membersDepth_ofMembers members, depth, Nat.zero_max]

end

/-! ## Free values -/

theorem ofList_depth_le {members : List (String × FreeJson)} {n : Nat}
    (each : ∀ entry ∈ members, entry.2.json.depth ≤ n) :
    BlockPipeline.membersDepth (FreeObject.ofList members).members ≤ n := by
  refine BlockPipeline.membersDepth_le_iff.mpr fun member mem => ?_
  obtain ⟨entry, there, rfl⟩ := FreeObject.mem_ofList mem
  exact each entry there

mutual

/-- **A free value is no deeper than the document that it is read from.** -/
theorem free_depth_le : ∀ {doc : Document} {value : FreeJson}, doc.free = .ok value →
    value.json.depth ≤ doc.depth
  | .null, _, read | .bool _, _, read | .number _, _, read | .string _, _, read => by
    cases read
    exact Nat.zero_le _
  | .array _ _, _, read => by
    simp only [free, bind_eq_ok] at read
    obtain ⟨values, read, -, -, ⟨⟩⟩ := read
    refine Nat.succ_le_succ (BlockPipeline.itemsDepth_le_iff.mpr fun item mem => ?_)
    obtain ⟨value, there, rfl⟩ := List.mem_map.mp mem
    exact freeItems_depth_le read value there
  | .object _ _, _, read => by
    simp only [free, bind_eq_ok] at read
    obtain ⟨values, read, -, -, ⟨⟩⟩ := read
    exact Nat.succ_le_succ (ofList_depth_le (freeMembers_depth_le read))

theorem freeItems_depth_le : ∀ {items : List Document} {values : List FreeJson},
    freeItems items = .ok values → ∀ value ∈ values, value.json.depth ≤ itemsDepth items
  | [], _, read => by
    cases read
    exact nofun
  | item :: items, _, read => by
    simp only [freeItems, bind_eq_ok] at read
    obtain ⟨value, first, values, others, ⟨⟩⟩ := read
    refine List.forall_mem_cons.mpr ⟨?_, fun later mem => ?_⟩
    · exact Nat.le_trans (free_depth_le first) (Nat.le_max_left _ _)
    · exact Nat.le_trans (freeItems_depth_le others later mem) (Nat.le_max_right _ _)

theorem freeMembers_depth_le : ∀ {members : List (Document × Document)}
    {values : List (String × FreeJson)}, freeMembers members = .ok values →
    ∀ entry ∈ values, entry.2.json.depth ≤ membersDepth members
  | [], _, read => by
    cases read
    exact nofun
  | (key, item) :: members, _, read => by
    simp only [freeMembers, bind_eq_ok] at read
    obtain ⟨name, -, value, first, values, others, ⟨⟩⟩ := read
    refine List.forall_mem_cons.mpr ⟨?_, fun later mem => ?_⟩
    · have first := free_depth_le first
      simp only [membersDepth]
      omega
    · exact Nat.le_trans (freeMembers_depth_le others later mem) (Nat.le_max_right _ _)

end

/-! ## Documents that are read -/

/-- The documents in an open container are at most this deep. -/
def Frame.Within (n : Nat) : Frame → Prop
  | .array items => itemsDepth items ≤ n
  | .object members => membersDepth members ≤ n
  | .member members name => membersDepth members ≤ n ∧ name.depth ≤ n

/-- Every open container has room for what is in it. -/
def StackWithin : List Frame → Prop
  | [] => True
  | frame :: outer => frame.Within (depthLimit - outer.length - 1) ∧ StackWithin outer

/-- No value that is built, or that is still open, is deeper than the limit. -/
def Build.Within : Build → Prop
  | .unfinished stack _ => StackWithin stack
  | .finished root _ => root.depth ≤ depthLimit

theorem depth_array_reverse {items : List Document} {n : Nat} (within : itemsDepth items ≤ n)
    (cut : Option Fault) : (Document.array items.reverse cut).depth ≤ n + 1 :=
  Nat.succ_le_succ <| itemsDepth_le_iff.mpr fun item mem =>
    itemsDepth_le_iff.mp within item (List.mem_reverse.mp mem)

theorem depth_object_reverse {members : List (Document × Document)} {n : Nat}
    (within : membersDepth members ≤ n) (cut : Option Fault) :
    (Document.object members.reverse cut).depth ≤ n + 1 :=
  Nat.succ_le_succ <| membersDepth_le_iff.mpr fun member mem =>
    membersDepth_le_iff.mp within member (List.mem_reverse.mp mem)

/-- A container that is closed or cut off fits in where it stood, because one that is too deep is
not kept. -/
theorem Frame.seal_depth_le {frame : Frame} {outer : List Frame}
    (within : frame.Within (depthLimit - outer.length - 1)) (cut : Option Fault) :
    (frame.seal outer cut).depth ≤ depthLimit - outer.length := by
  unfold Frame.seal
  split
  next kept =>
    have room : depthLimit - outer.length = depthLimit - outer.length - 1 + 1 := by
      have short := List.drop_eq_nil_iff.mp (List.isEmpty_iff.mp kept)
      simp only [depthLimit] at short ⊢
      omega
    rw [room]
    cases frame with
    | array items => exact depth_array_reverse within cut
    | object members => exact depth_object_reverse within cut
    | member members name =>
      refine depth_object_reverse (Nat.max_le.mpr ⟨?_, within.1⟩) cut
      exact Nat.max_le.mpr ⟨within.2, Nat.zero_le _⟩
  next => exact Nat.zero_le _

/-- A value that fits in is put in. -/
theorem Frame.within_put {frame : Frame} {value : Document} {n : Nat} (within : frame.Within n)
    (fits : value.depth ≤ n) : (frame.put value).Within n := by
  cases frame with
  | array items => exact Nat.max_le.mpr ⟨fits, within⟩
  | object members => exact ⟨within, fits⟩
  | member members name => exact Nat.max_le.mpr ⟨Nat.max_le.mpr ⟨within.2, fits⟩, within.1⟩

theorem cutOff_depth_le {fault : Fault} {stack : List Frame} {value : Document}
    (within : StackWithin stack) (fits : value.depth ≤ depthLimit - stack.length) :
    (cutOff fault stack value).depth ≤ depthLimit := by
  induction stack generalizing value with
  | nil => exact fits
  | cons frame outer ih =>
    obtain ⟨first, others⟩ := within
    exact ih others (Frame.seal_depth_le (Frame.within_put first fits) _)

section Build

variable {stack : List Frame}

theorem Build.within_put (within : StackWithin stack) {value : Document}
    (fits : value.depth ≤ depthLimit - stack.length) : (Build.put stack value).Within := by
  cases stack with
  | nil => exact fits
  | cons frame outer => exact ⟨Frame.within_put within.1 fits, within.2⟩

theorem Build.within_breakAt (within : StackWithin stack) {value : Document}
    (fits : value.depth ≤ depthLimit - stack.length) (fault : Fault) :
    (Build.breakAt stack value fault).Within :=
  cutOff_depth_le within fits

theorem Build.within_breakOff (within : StackWithin stack) (fault : Fault) :
    (Build.breakOff stack fault).Within := by
  cases stack with
  | nil => exact Nat.zero_le _
  | cons frame outer => exact cutOff_depth_le within.2 (Frame.seal_depth_le within.1 _)

theorem Build.within_close (within : StackWithin stack) : (Build.close stack).Within := by
  cases stack with
  | nil => exact Nat.zero_le _
  | cons frame outer => exact Build.within_put within.2 (Frame.seal_depth_le within.1 _)

theorem Build.within_putName (within : StackWithin stack) {name : Document}
    (fits : name.depth ≤ depthLimit - stack.length) : (Build.putName stack name).Within := by
  cases stack with
  | nil => exact Nat.zero_le _
  | cons frame outer => exact ⟨Frame.within_put within.1 fits, within.2⟩

/-- A token that is a value by itself is no container. -/
theorem depth_ofToken? {token : Token} {value : Document} (found : ofToken? token = some value) :
    value.depth = 0 := by
  unfold ofToken? at found
  split at found <;> cases found <;> rfl

theorem Build.within_value (within : StackWithin stack) (token : Token) :
    (Build.value stack token).Within := by
  unfold Build.value
  split
  · exact ⟨Nat.zero_le _, within⟩
  · exact ⟨Nat.zero_le _, within⟩
  · exact Build.within_breakAt within (Nat.zero_le _) _
  · exact Build.within_breakAt within (Nat.zero_le _) _
  · split
    next value found => exact Build.within_put within (depth_ofToken? found ▸ Nat.zero_le _)
    next => exact Build.within_breakAt within (Nat.zero_le _) _

theorem Build.within_name (within : StackWithin stack) (token : Token) :
    (Build.name stack token).Within := by
  unfold Build.name
  split
  · exact Build.within_putName within (Nat.zero_le _)
  · exact Build.within_putName within (Nat.zero_le _)
  · exact Build.within_breakAt within (Nat.zero_le _) _
  · exact Build.within_breakAt within (Nat.zero_le _) _

theorem Build.within_separate (within : StackWithin stack) (token : Token) :
    (Build.separate stack token).Within := by
  unfold Build.separate
  split
  · exact within
  · exact Build.within_close within
  · exact within
  · exact Build.within_close within
  · exact Build.within_breakOff within _

end Build

/-- **No token makes a document too deep.** -/
theorem Build.Within.step {build : Build} (within : build.Within) (token : Token) :
    (build.step token).Within := by
  cases build with
  | finished root trailing => exact within
  | unfinished stack expect =>
    cases expect with
    | value => exact Build.within_value within token
    | firstValue =>
      simp only [Build.step]
      split
      · exact Build.within_close within
      · exact Build.within_value within token
    | name => exact Build.within_name within token
    | firstName =>
      simp only [Build.step]
      split
      · exact Build.within_close within
      · exact Build.within_name within token
    | colon =>
      simp only [Build.step]
      split
      · exact within
      · exact Build.within_breakOff within _
    | separator => exact Build.within_separate within token

theorem Build.Within.foldl {build : Build} (within : build.Within) (tokens : List Token) :
    (tokens.foldl Build.step build).Within := by
  induction tokens generalizing build with
  | nil => exact within
  | cons token tokens ih => exact ih (within.step token)

theorem Build.Within.finish {build : Build} (within : build.Within) :
    build.finish.1.depth ≤ depthLimit := by
  cases build with
  | finished root trailing => exact within
  | unfinished stack expect =>
    cases expect with
    | value | name => exact cutOff_depth_le within (Nat.zero_le _)
    | firstValue | firstName | colon | separator =>
      cases stack with
      | nil => exact Nat.zero_le _
      | cons frame outer => exact cutOff_depth_le within.2 (Frame.seal_depth_le within.1 _)

/-- **Whatever text is read, its document keeps to the limit.** -/
theorem read_depth_le (text : String) : (read text).1.depth ≤ depthLimit := by
  have start : (Build.unfinished [] .value).Within := trivial
  exact (start.foldl _).finish

end Document

/-- So does the free value that a text denotes. -/
theorem FreeJson.read_depth_le {text : String} {value : FreeJson} (read : read text = .ok value) :
    value.json.depth ≤ Document.depthLimit := by
  simp only [FreeJson.read, bind_eq_ok] at read
  obtain ⟨_, decoded, -, -, ⟨⟩⟩ := read
  exact Nat.le_trans (Document.free_depth_le decoded) (Document.read_depth_le text)

end BlockPipeline
