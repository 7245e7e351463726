import Clipping.Proofs.Utility.Sides
import Mathlib.Data.List.Nodup
import Mathlib.Data.List.Perm.Subperm

/-! Tokens of the four sides, read back. A token covers all sides, the two of an axis or one, and
sets them to its key. The tokens that four keys become set each side that has a key once, to its
own key, and no shorter list of tokens sets the same. -/
namespace Clipping.Utility

open Output Text

inductive Axis where
  | vertical
  | horizontal
  deriving DecidableEq, Repr

inductive Side where
  | top
  | right
  | bottom
  | left
  deriving DecidableEq, Repr

/-- The sides that one token covers. -/
inductive Extent where
  | all
  | both (axis : Axis)
  | one (side : Side)
  deriving DecidableEq, Repr

namespace Side

def letter : Side → String
  | top => "t"
  | right => "r"
  | bottom => "b"
  | left => "l"

def axis : Side → Axis
  | top | bottom => .vertical
  | right | left => .horizontal

end Side

namespace Axis

def letter : Axis → String
  | vertical => "y"
  | horizontal => "x"

def start : Axis → Side
  | vertical => .top
  | horizontal => .right

def finish : Axis → Side
  | vertical => .bottom
  | horizontal => .left

@[simp] theorem axis_start (axis : Axis) : axis.start.axis = axis := by cases axis <;> rfl

@[simp] theorem axis_finish (axis : Axis) : axis.finish.axis = axis := by cases axis <;> rfl

end Axis

namespace Extent

/-- What stands for the extent between the stem of a token and its key. -/
def letter : Extent → String
  | all => ""
  | both axis => axis.letter
  | one side => side.letter

def sides : Extent → List Side
  | all => [.top, .right, .bottom, .left]
  | both axis => [axis.start, axis.finish]
  | one side => [side]

/-- The axis of the sides, unless they are all. -/
def axis? : Extent → Option Axis
  | all => none
  | both axis => some axis
  | one side => some side.axis

def every : List Extent :=
  [all, both .vertical, both .horizontal, one .top, one .right, one .bottom, one .left]

def token (extent : Extent) (stem key : String) : String := stem ++ extent.letter ++ "-" ++ key

end Extent

/-- What a token says after a stem: the sides that it covers, and their key. -/
def reading? (stem token : String) : Option (Extent × String) :=
  (after? stem.toList token.toList).bind fun rest =>
    Extent.every.findSome? fun extent =>
      (after? (extent.letter ++ "-").toList rest).map fun key => (extent, String.ofList key)

/-- The keys that tokens set a side to, one for each token that covers it. -/
def keysOf (stem : String) (tokens : List String) (side : Side) : List String :=
  tokens.filterMap fun token =>
    (reading? stem token).bind fun (extent, key) => if side ∈ extent.sides then some key else none

/-- The tokens set the sides that have a key to it, and no other side. -/
def Sets (stem : String) (tokens : List String) (key : Side → Option String) : Prop :=
  ∀ side k, k ∈ keysOf stem tokens side ↔ key side = some k

def sidesTokens (stem : String) (key : Side → Option String) : List String :=
  consolidate stem (key .top) (key .right) (key .bottom) (key .left)

variable {stem : String} {key : Side → Option String}

/-! Reading. -/

@[simp] theorem reading?_token (extent : Extent) (stem key : String) :
    reading? stem (extent.token stem key) = some (extent, key) := by
  have rest : after? stem.toList (extent.token stem key).toList =
      some ((extent.letter ++ "-").toList ++ key.toList) :=
    after?_eq_some.mpr (by simp [Extent.token])
  rw [reading?, rest, Option.bind_some]
  cases extent with
  | all => simp [Extent.every, Extent.letter, after?]
  | both axis =>
    cases axis with
    | vertical | horizontal => simp [Extent.every, Extent.letter, Axis.letter, after?]
  | one side =>
    cases side with
    | top | right | bottom | left => simp [Extent.every, Extent.letter, Axis.letter, Side.letter, after?]

/-- A key of a side is that of a token that covers the side. -/
theorem mem_keysOf {tokens : List String} {side : Side} {k : String} : k ∈ keysOf stem tokens side ↔
    ∃ token ∈ tokens, ∃ extent : Extent, reading? stem token = some (extent, k) ∧ side ∈ extent.sides := by
  simp only [keysOf, List.mem_filterMap, Option.bind_eq_some_iff, Prod.exists, Option.ite_none_right_eq_some,
    Option.some.injEq]
  constructor
  · rintro ⟨token, member, extent, own, read, covered, rfl⟩
    exact ⟨token, member, extent, read, covered⟩
  · rintro ⟨token, member, extent, read, covered⟩
    exact ⟨token, member, extent, k, read, covered, rfl⟩

theorem keysOf_append (tokens others : List String) (side : Side) :
    keysOf stem (tokens ++ others) side = keysOf stem tokens side ++ keysOf stem others side :=
  List.filterMap_append

/-- The token of an extent sets its sides. -/
theorem keysOf_sideTokens (stem : String) (extent : Extent) {k : Option String} (written : k ≠ some "") (side : Side) :
    keysOf stem (sideTokens (stem ++ extent.letter) k) side = if side ∈ extent.sides then k.toList else [] := by
  cases k with
  | none => simp [sideTokens, keysOf]
  | some k =>
    have filled : k ≠ "" := fun empty => written (congrArg some empty)
    have tokens : sideTokens (stem ++ extent.letter) (some k) = [extent.token stem k] := by
      simp [sideTokens, filled, Extent.token]
    by_cases covered : side ∈ extent.sides
    · simp [tokens, keysOf, covered]
    · simp [tokens, keysOf, covered]

/-! Setting. -/

def Axis.tokens (axis : Axis) (stem : String) (key : Side → Option String) : List String :=
  axisTokens (stem ++ axis.letter) (stem ++ axis.start.letter) (stem ++ axis.finish.letter)
    (key axis.start) (key axis.finish)

/-- All four sides have one key. -/
def Agree (key : Side → Option String) : Prop :=
  isSet (key .top) ∧ key .top = key .right ∧ key .right = key .bottom ∧ key .bottom = key .left

theorem sidesTokens_of_agree (agree : Agree key) : sidesTokens stem key = sideTokens stem (key .top) :=
  if_pos agree

theorem sidesTokens_of_not_agree (apart : ¬Agree key) :
    sidesTokens stem key = Axis.vertical.tokens stem key ++ Axis.horizontal.tokens stem key :=
  if_neg apart

theorem keysOf_axis (written : ∀ side, key side ≠ some "") (axis : Axis) (side : Side) :
    keysOf stem (axis.tokens stem key) side = if side.axis = axis then (key side).toList else [] := by
  have whole := keysOf_sideTokens stem (.both axis) (written axis.start) side
  have start := keysOf_sideTokens stem (.one axis.start) (written axis.start) side
  have finish := keysOf_sideTokens stem (.one axis.finish) (written axis.finish) side
  simp only [Extent.letter, Extent.sides] at whole start finish
  unfold Axis.tokens axisTokens
  split
  · next same =>
    rw [whole]
    cases axis <;> cases side <;> simp_all [Axis.start, Axis.finish, Side.axis]
  · rw [keysOf_append, start, finish]
    cases axis <;> cases side <;> simp [Axis.start, Axis.finish, Side.axis]

/-- The tokens of four sides set each side once, to its own key. -/
theorem keysOf_sidesTokens (written : ∀ side, key side ≠ some "") (side : Side) :
    keysOf stem (sidesTokens stem key) side = (key side).toList := by
  by_cases agree : Agree key
  · have whole := keysOf_sideTokens stem .all (written .top) side
    rw [Extent.letter, String.append_empty] at whole
    rw [sidesTokens_of_agree agree, whole]
    obtain ⟨-, right, bottom, left⟩ := agree
    cases side <;> simp [Extent.sides, ← left, ← bottom, ← right]
  · rw [sidesTokens_of_not_agree agree, keysOf_append, keysOf_axis written, keysOf_axis written]
    cases side <;> simp [Side.axis]

/-! No fewer tokens. Unless the four sides agree, no token covers sides of both axes, and so each
key of an axis takes a token of its own. -/

/-- The keys of an axis, one if its sides agree. -/
def Axis.keys (axis : Axis) (key : Side → Option String) : List String :=
  if key axis.start = key axis.finish then (key axis.start).toList
  else (key axis.start).toList ++ (key axis.finish).toList

def demands (key : Side → Option String) : List (Axis × String) :=
  (Axis.vertical.keys key).map (.vertical, ·) ++ (Axis.horizontal.keys key).map (.horizontal, ·)

theorem length_sideTokens {k : Option String} (written : k ≠ some "") :
    (sideTokens stem k).length = k.toList.length := by
  cases k with
  | none => rfl
  | some k =>
    have filled : k ≠ "" := fun empty => written (congrArg some empty)
    simp [sideTokens, filled]

theorem length_axis (written : ∀ side, key side ≠ some "") (axis : Axis) :
    (axis.tokens stem key).length = (axis.keys key).length := by
  unfold Axis.tokens axisTokens Axis.keys
  split
  · exact length_sideTokens (written _)
  · rw [List.length_append, List.length_append, length_sideTokens (written _), length_sideTokens (written _)]

theorem nodup_keys (axis : Axis) : (axis.keys key).Nodup := by
  unfold Axis.keys
  split
  · cases key axis.start <;> simp
  · next apart =>
    cases start : key axis.start with
    | none => cases key axis.finish <;> simp
    | some k =>
      cases finish : key axis.finish with
      | none => simp
      | some other =>
        simp only [start, finish, Option.some.injEq] at apart
        simpa using apart

theorem nodup_demands : (demands key).Nodup := by
  have pair (axis : Axis) : Function.Injective (Prod.mk axis : String → Axis × String) :=
    fun _ _ same => (Prod.mk.inj same).2
  refine List.nodup_append.mpr ⟨(nodup_keys _).map (pair _), (nodup_keys _).map (pair _), ?_⟩
  rintro _ vertical _ horizontal rfl
  obtain ⟨k, -, rfl⟩ := List.mem_map.mp vertical
  obtain ⟨other, -, same⟩ := List.mem_map.mp horizontal
  cases same

theorem exists_side_of_mem_keys {axis : Axis} {k : String} (member : k ∈ axis.keys key) :
    ∃ side, side.axis = axis ∧ key side = some k := by
  have listed : key axis.start = some k ∨ key axis.finish = some k := by
    unfold Axis.keys at member
    split at member
    · exact .inl (Option.mem_toList.mp member)
    · exact (List.mem_append.mp member).imp Option.mem_toList.mp Option.mem_toList.mp
  rcases listed with start | finish
  · exact ⟨axis.start, axis.axis_start, start⟩
  · exact ⟨axis.finish, axis.axis_finish, finish⟩

theorem exists_side_of_mem_demands {demand : Axis × String} (member : demand ∈ demands key) :
    ∃ side, side.axis = demand.1 ∧ key side = some demand.2 := by
  rcases List.mem_append.mp member with vertical | horizontal
  · obtain ⟨k, listed, rfl⟩ := List.mem_map.mp vertical
    exact exists_side_of_mem_keys listed
  · obtain ⟨k, listed, rfl⟩ := List.mem_map.mp horizontal
    exact exists_side_of_mem_keys listed

theorem Extent.axis?_eq {extent : Extent} {side : Side} (part : extent ≠ .all) (covered : side ∈ extent.sides) :
    extent.axis? = some side.axis := by
  cases extent with
  | all => exact absurd rfl part
  | both axis =>
    have end' : side = axis.start ∨ side = axis.finish := by simpa [Extent.sides] using covered
    rcases end' with rfl | rfl
    · simp [Extent.axis?]
    · simp [Extent.axis?]
  | one own =>
    obtain rfl := List.mem_singleton.mp covered
    rfl

/-- A token that covers all sides makes them agree. -/
theorem Sets.agree {tokens : List String} (written : ∀ side, key side ≠ some "") (sets : Sets stem tokens key)
    {token k : String} (member : token ∈ tokens) (read : reading? stem token = some (.all, k)) : Agree key := by
  have own (side : Side) : key side = some k := by
    refine (sets side k).mp (mem_keysOf.mpr ⟨token, member, .all, read, ?_⟩)
    cases side <;> simp [Extent.sides]
  have filled : k ≠ "" := fun empty => written .top ((own .top).trans (congrArg some empty))
  simp [Agree, own, isSet, filled]

theorem Sets.length_demands_le {tokens : List String} (written : ∀ side, key side ≠ some "")
    (sets : Sets stem tokens key) (apart : ¬Agree key) : (demands key).length ≤ tokens.length := by
  -- the axis and the key of a token, which no two demands share
  let demand (token : String) : Option (Axis × String) :=
    (reading? stem token).bind fun (extent, k) => extent.axis?.map fun axis => (axis, k)
  have covered : demands key ⊆ tokens.filterMap demand := by
    rintro ⟨axis, k⟩ member
    obtain ⟨side, rfl, own⟩ := exists_side_of_mem_demands member
    obtain ⟨token, listed, extent, read, within⟩ := mem_keysOf.mp ((sets side k).mpr own)
    have part : extent ≠ .all := by
      rintro rfl
      exact apart (sets.agree written listed read)
    exact List.mem_filterMap.mpr ⟨token, listed, by simp [demand, read, Extent.axis?_eq part within]⟩
  calc (demands key).length
    _ ≤ (tokens.filterMap demand).length := (List.subperm_of_subset nodup_demands covered).length_le
    _ ≤ tokens.length := List.length_filterMap_le _ _

/-- The tokens of four sides set each side that has a key once, to its own key, and no other side;
and no shorter list of tokens sets the same. -/
theorem sides_covered (stem : String) (key : Side → Option String) (written : ∀ side, key side ≠ some "") :
    (∀ side, keysOf stem (consolidate stem (key .top) (key .right) (key .bottom) (key .left)) side =
      (key side).toList) ∧
    ∀ tokens, Sets stem tokens key →
      (consolidate stem (key .top) (key .right) (key .bottom) (key .left)).length ≤ tokens.length := by
  refine ⟨keysOf_sidesTokens written, fun tokens sets => ?_⟩
  show (sidesTokens stem key).length ≤ tokens.length
  by_cases agree : Agree key
  · obtain ⟨k, own⟩ : ∃ k, key .top = some k := by
      cases top : key .top with
      | none => simp [Agree, top, isSet] at agree
      | some k => exact ⟨k, rfl⟩
    obtain ⟨token, listed, -⟩ := mem_keysOf.mp ((sets .top k).mpr own)
    rw [sidesTokens_of_agree agree, length_sideTokens (written .top), own]
    exact List.length_pos_of_mem listed
  · rw [sidesTokens_of_not_agree agree, List.length_append, length_axis written, length_axis written]
    simpa [demands] using sets.length_demands_le written agree

/-- All sides but the right one agree. One token for all and one for the right side would be
fewer, but they would set the right side twice. -/
def unevenKeys : Side → Option String
  | .right => some "1"
  | _ => some "2"

theorem sides_covered_uneven :
    (∀ side, unevenKeys side ≠ some "") ∧
    consolidate "p" (some "2") (some "1") (some "2") (some "2") = ["py-2", "pr-1", "pl-2"] ∧
    (∀ side, keysOf "p" ["py-2", "pr-1", "pl-2"] side = (unevenKeys side).toList) ∧
    ∀ tokens, Sets "p" tokens unevenKeys → 3 ≤ tokens.length := by
  have written : ∀ side, unevenKeys side ≠ some "" := by
    intro side
    cases side <;> decide
  exact ⟨written, by decide, sides_covered "p" unevenKeys written⟩

end Clipping.Utility
