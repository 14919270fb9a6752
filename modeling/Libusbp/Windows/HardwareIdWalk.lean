import Libusbp.Lib.CString
import Libusbp.Windows.Device

/-!
# The walk over hardware IDs, byte by byte

`device_take_info_from_hardware_ids` goes from string to string and does not know where the hardware IDs
end. Here it is in a memory without bounds, behind the check of `device_get_hardware_ids` and the loop for
the capital letters, and it is shown to stay inside of the buffer and to do what the functions in
`Device.lean` do, for which an address beyond the buffer is a fault.
-/

namespace Libusbp.Windows

open Prog Host Memory

/-- The check of `device_get_hardware_ids`: `size < 2 || new_ids[size - 2] != 0 ||
new_ids[size - 1] != 0` -/
def checkTermination (size : Nat) : Prog Fault Memory Bool := do
  if size < 2 then pure false
  else
    let c ← examine (size - 2)
    if c ≠ 0 then pure false
    else
      let c ← examine (size - 1)
      pure (c = 0)

/-- A round of the loop of `device_get_hardware_ids`. -/
def capitalizeRound (i : Nat) : Prog Fault Memory Unit := do
  let c ← examine i
  if 97 ≤ c ∧ c ≤ 122 then store i (c - 32) else pure ()

/-- The pointer of `device_take_info_from_hardware_ids`, and the strings that it came to, with their
addresses. -/
structure WalkVars where
  ids : Nat := 0
  visited : List (Nat × List UInt8) := []

/-- A round of the loop of `device_take_info_from_hardware_ids`, with `none` for the error behind it. -/
def walkRound (rounds : Nat) (l : WalkVars) :
    Prog Fault Memory (WalkVars ⊕ (Option (UInt16 × UInt16 × UInt16) × List (Nat × List UInt8))) := do
  let first ← examine l.ids
  if first = 0 then pure (.inr (none, l.visited))
  else
    -- `sscanf` may look at all of the string and at its end
    let string ← readString .endless rounds l.ids
    let visited := l.visited ++ [(l.ids, string)]
    match scanHardwareId string with
    | some numbers => pure (.inr (some numbers, visited))
    | none =>
      -- `strlen`
      let again ← readString .endless rounds l.ids
      pure (.inl ⟨l.ids + again.length + 1, visited⟩)

/-- What is done with a buffer of `size` bytes at the start of the memory: nothing if it does not pass
the check. A loop with more than the given number of rounds is a fault. -/
def walkHardwareIds (rounds size : Nat) : Prog Fault Memory
    (Option (Option (UInt16 × UInt16 × UInt16) × List (Nat × List UInt8))) := do
  if ← checkTermination size then
    forRange capitalizeRound 0 size
    let r ← loopWith .endless (walkRound rounds) rounds {}
    pure (some r)
  else pure none

/-- Strings one behind the other, each with a zero byte, with their addresses from `p` on. -/
def stringsFrom (p : Nat) : List (List UInt8) → List (Nat × List UInt8)
  | [] => []
  | string :: strings => (p, string) :: stringsFrom (p + string.length + 1) strings

/-- The strings up to the first one that has three numbers. -/
def upToNumbers : List (List UInt8) → List (List UInt8)
  | [] => []
  | string :: strings =>
    if (scanHardwareId string).isSome then [string] else string :: upToNumbers strings

variable {bytes ids : List UInt8} {memory : Memory} {rounds p : Nat}

/-- The check looks at the last two bytes only. -/
lemma wp_checkTermination (inside : Inside bytes memory) :
    wp (checkTermination bytes.length)
      (fun passes memory' => passes = terminated bytes ∧ Inside bytes memory') memory := by
  unfold checkTermination
  apply wp_ite
  · intro small
    refine wp_pure.mpr ⟨?_, inside⟩
    rw [terminated, decide_eq_false fun long => absurd long.1 (Nat.not_le.mpr small)]
  intro long
  have long : 2 ≤ bytes.length := Nat.not_lt.mp long
  have last : bytes.length - 2 + 1 = bytes.length - 1 := by omega
  have last' : bytes.length - 1 + 1 = bytes.length := by omega
  have ends : bytes.drop (bytes.length - 2) =
      [memory.byte (bytes.length - 2), memory.byte (bytes.length - 1)] := by
    rw [inside.drop (by omega), last, inside.drop (by omega), last', List.drop_length]
  have passes : terminated bytes = decide (memory.byte (bytes.length - 2) = 0 ∧
      memory.byte (bytes.length - 1) = 0) := by
    rw [terminated, ends]
    simp [long]
  rw [passes]
  simp only [wp_bind]
  apply inside.wp_examine (by omega)
  intro memory₁ same inside₁
  apply wp_ite
  · intro ne
    refine wp_pure.mpr ⟨?_, inside₁⟩
    rw [decide_eq_false fun both => ne both.1]
  intro eq
  have eq : memory.byte (bytes.length - 2) = 0 := Decidable.of_not_not eq
  simp only [wp_bind]
  apply inside₁.wp_examine (by omega)
  intro memory₂ _ inside₂
  rw [wp_pure, same]
  simp only [eq, true_and]
  exact inside₂

/-- The loop makes capitals of the letters in the buffer. -/
lemma wp_capitalize (inside : Inside bytes memory) : wp (forRange capitalizeRound 0 bytes.length)
    (fun _ memory' => Inside (bytes.map capitalize) memory') memory := by
  -- in front of `i` there are capitals
  apply wp_forRange fun i memory => (∀ j, (lt : j < bytes.length) →
      memory.byte j = if j < i then capitalize bytes[j] else bytes[j]) ∧
    ∀ j ∈ memory.examined, j < bytes.length
  · rintro i memory _ lt ⟨holds, examined⟩
    have lt : i < bytes.length := by omega
    have here : memory.byte i = bytes[i] := by rw [holds i lt, if_neg (Nat.lt_irrefl i)]
    have examined' : ∀ j ∈ i :: memory.examined, j < bytes.length := by
      intro j mem
      rcases List.mem_cons.mp mem with rfl | mem
      · exact lt
      · exact examined j mem
    have next (byte : Nat → UInt8) (becomes : byte i = capitalize bytes[i])
        (others : ∀ j, j ≠ i → byte j = memory.byte j) (j : Nat) (lt' : j < bytes.length) :
        byte j = if j < i + 1 then capitalize bytes[j] else bytes[j] := by
      by_cases same : j = i
      · subst same
        rw [becomes, if_pos (Nat.lt_succ_self j)]
      · rw [others j same, holds j lt']
        congr 1
        simp only [eq_iff_iff]
        omega
    simp only [capitalizeRound, examine, wp_bind, wp_get, wp_set, wp_pure]
    rw [here]
    apply wp_ite
    · intro letter
      simp only [store, wp_modify]
      refine ⟨next _ ?_ fun j ne => Function.update_of_ne ne _ _, examined'⟩
      rw [Function.update_self, capitalize, if_pos letter]
    · intro other
      refine wp_pure.mpr ⟨next _ ?_ fun _ _ => rfl, examined'⟩
      rw [here, capitalize, if_neg other]
  · rintro memory ⟨holds, examined⟩
    constructor
    · intro i lt
      rw [List.length_map] at lt
      rw [List.getElem?_map, List.getElem?_eq_getElem lt, Option.map_some, holds i lt,
        if_pos (by omega)]
    · intro i mem
      rw [List.length_map]
      exact examined i mem
  · refine ⟨fun j lt => ?_, inside.examined⟩
    have holds := inside.holds j lt
    rw [List.getElem?_eq_getElem lt] at holds
    rw [if_neg (Nat.not_lt_zero j)]
    exact (Option.some.inj holds).symm


/-- What holds in front of a round: the strings that were visited and those in front of the pointer are
all the strings to visit. -/
structure Walking (ids : List UInt8) (l : WalkVars) (memory : Memory) : Prop where
  inside : Inside ids memory
  walk : Walkable (ids.drop l.ids)
  visited : l.visited ++ stringsFrom l.ids (upToNumbers (multiStrings (ids.drop l.ids))) =
    stringsFrom 0 (upToNumbers (multiStrings ids))
  numbers : hardwareIdNumbers (ids.drop l.ids) = hardwareIdNumbers ids

lemma Walkable.ne_nil (walk : Walkable ids) : ids ≠ [] := by
  obtain rfl | ⟨ys, rfl⟩ := walk
  · exact List.cons_ne_nil _ _
  · simp

lemma Walkable.ends (walk : Walkable ids) : 0 ∈ ids := by
  obtain rfl | ⟨ys, rfl⟩ := walk
  · exact List.mem_singleton_self 0
  · simp

/-- Behind a string that is not empty, the walk goes on. -/
lemma Walkable.next (walk : Walkable ids) (ne : ids.head? ≠ some 0) :
    Walkable (ids.dropWhile (· != 0)).tail := by
  obtain rfl | ⟨ys, rfl⟩ := walk
  · exact absurd rfl ne
  · exact (walkable_next ys).1

lemma Walking.lt {l : WalkVars} (walking : Walking ids l memory) : l.ids < ids.length := by
  by_contra le
  exact walking.walk.ne_nil (List.drop_eq_nil_of_le (Nat.not_lt.mp le))

/-- A round leaves the loop with the numbers and the strings that it should, or goes on to the next
string. -/
lemma walkRound_walks {l : WalkVars} (walking : Walking ids l memory) (enough : ids.length ≤ rounds) :
    wp (walkRound rounds l) (fun r memory' => match r with
      | .inl l' => Walking ids l' memory' ∧ ids.length - 1 - l'.ids < ids.length - 1 - l.ids
      | .inr r => r = (hardwareIdNumbers ids, stringsFrom 0 (upToNumbers (multiStrings ids))) ∧
        Inside ids memory') memory := by
  have lt := walking.lt
  have here := walking.inside.drop lt
  have visited := walking.visited
  have numbers := walking.numbers
  simp only [walkRound, wp_bind]
  apply walking.inside.wp_examine lt
  intro memory₁ _ inside₁
  apply wp_ite
  · intro zero
    rw [here, zero, multiStrings_zero] at visited
    rw [here, zero, hardwareIdNumbers, multiStrings_zero] at numbers
    rw [wp_pure, ← numbers, ← visited, upToNumbers, stringsFrom, List.append_nil]
    exact ⟨rfl, inside₁⟩
  intro ne
  have ends := walking.walk.ends
  have next := walking.walk.next (by rw [here]; simpa using ne)
  obtain ⟨bare, split⟩ := split_at_zero ends
  simp only [wp_bind]
  apply inside₁.wp_readString ends enough
  intro memory₂ inside₂
  generalize string_eq : (ids.drop l.ids).takeWhile (· != 0) = string at *
  generalize rest_eq : ((ids.drop l.ids).dropWhile (· != 0)).tail = rest at *
  have nonempty : string ≠ [] := by
    rw [← string_eq, here, List.takeWhile_cons_of_pos (by simpa using ne)]
    exact List.cons_ne_nil _ _
  have behind : ids.drop (l.ids + string.length + 1) = rest := by
    rw [Nat.add_assoc, ← List.drop_drop, split]
    simp
  rw [split, multiStrings_cons nonempty bare] at visited
  rw [split, hardwareIdNumbers_cons nonempty bare] at numbers
  cases scan : scanHardwareId string with
  | some found =>
    rw [upToNumbers, if_pos (by rw [scan]; rfl), stringsFrom, stringsFrom] at visited
    rw [scan] at numbers
    rw [wp_pure, ← numbers, ← visited]
    exact ⟨rfl, inside₂⟩
  | none =>
    rw [upToNumbers, if_neg (by rw [scan]; exact Bool.false_ne_true), stringsFrom] at visited
    rw [scan] at numbers
    simp only [wp_bind]
    apply inside₂.wp_readString ends enough
    intro memory₃ inside₃
    rw [wp_pure, string_eq]
    have walking' : Walking ids ⟨l.ids + string.length + 1, l.visited ++ [(l.ids, string)]⟩ memory₃ := by
      constructor
      · exact inside₃
      · rwa [behind]
      · rw [behind, List.append_assoc]
        exact visited
      · rw [behind]
        exact numbers
    have lt' := walking'.lt
    exact ⟨walking', by dsimp only at lt' ⊢; omega⟩

/-- The walk ends. -/
lemma wp_walk (inside : Inside ids memory) (walk : Walkable ids) (enough : ids.length ≤ rounds) :
    wp (loopWith .endless (walkRound rounds) rounds {}) (fun r memory' =>
      r = (hardwareIdNumbers ids, stringsFrom 0 (upToNumbers (multiStrings ids))) ∧
        Inside ids memory') memory := by
  have start : Walking ids {} memory := ⟨inside, walk, rfl, rfl⟩
  apply wp_loopWith (Walking ids) fun l => ids.length - 1 - l.ids
  · intro l memory walking
    apply wp_mono (walkRound_walks walking enough)
    rintro (l' | r) memory' walked
    · exact walked
    · exact walked
  · have lt := start.lt
    dsimp only at lt ⊢
    omega
  · exact start

/-- The bytes of a buffer. -/
def bytesOf (byte : Nat → UInt8) (size : Nat) : List UInt8 := (List.range size).map byte

/-- At the start nothing was looked at. -/
lemma inside_start (byte : Nat → UInt8) (size : Nat) : Inside (bytesOf byte size) ⟨byte, []⟩ where
  holds i lt := by
    rw [bytesOf, List.length_map, List.length_range] at lt
    rw [bytesOf, List.getElem?_map, List.getElem?_range lt, Option.map_some]
  examined _ mem := absurd mem List.not_mem_nil

/-- What is done with a buffer looks at no byte behind it. If the buffer passes the check, it is walked
along its strings from the first one on, up to the empty one or, if a string has three numbers, up to and
with that string. The device gets those numbers. -/
structure Traverses (byte : Nat → UInt8) (size : Nat)
    (r : Option (Option (UInt16 × UInt16 × UInt16) × List (Nat × List UInt8))) (memory : Memory) :
    Prop where
  examined : ∀ i ∈ memory.examined, i < size
  passes : r.isSome = terminated (bytesOf byte size)
  visited : ∀ numbers visited, r = some (numbers, visited) →
    visited = stringsFrom 0 (upToNumbers (multiStrings ((bytesOf byte size).map capitalize)))
  numbers : ∀ numbers visited, r = some (numbers, visited) → ∀ m d s device, Holding m d s →
    wp (deviceTakeInfoFromHardwareIds device ((bytesOf byte size).map capitalize))
      (Numbered m d device numbers) s

/-- Whatever lies in a buffer and behind it, what is done with the hardware IDs ends after at most as many
rounds as the buffer has bytes, inside of the buffer. -/
theorem hardwareIds_traversed (byte : Nat → UInt8) {size rounds : Nat} (enough : size ≤ rounds) :
    wp (walkHardwareIds rounds size) (Traverses byte size) ⟨byte, []⟩ := by
  have inside := inside_start byte size
  have length : (bytesOf byte size).length = size := by
    rw [bytesOf, List.length_map, List.length_range]
  simp only [walkHardwareIds, wp_bind]
  rw [← length] at enough ⊢
  apply wp_mono (wp_checkTermination inside)
  rintro passes memory₁ ⟨eq, inside₁⟩
  cases passes with
  | false =>
    refine wp_pure.mpr ⟨?_, ?_, by rintro _ _ ⟨⟩, by rintro _ _ ⟨⟩⟩
    · exact inside₁.examined
    · rw [length]
      exact eq
  | true =>
    simp only [if_true, wp_bind]
    apply wp_mono (wp_capitalize inside₁)
    intro _ memory₂ inside₂
    obtain ⟨ys, buffer⟩ := terminated_iff.mp eq.symm
    have ids : (bytesOf byte size).map capitalize = ys.map capitalize ++ [0, 0] := by
      rw [buffer, capitalize_terminated]
    have mapped : ((bytesOf byte size).map capitalize).length = (bytesOf byte size).length :=
      List.length_map _
    apply wp_mono (wp_walk inside₂ (.inr ⟨_, ids⟩) (mapped.trans_le enough))
    rintro _ memory₃ ⟨rfl, inside₃⟩
    refine wp_pure.mpr ⟨?_, ?_, ?_, ?_⟩
    · exact fun i mem => (inside₃.examined i mem).trans_eq mapped
    · rw [length]
      exact eq
    · rintro numbers visited ⟨⟩
      rw [length]
    · rintro numbers visited ⟨⟩ m d s device own
      rw [length, ids]
      exact deviceTakeInfo_numbered own device _

/-- A buffer with three strings, the second of which has three numbers: the walk comes to the first two. -/
theorem hardwareIds_traversed_example :
    let bytes : List UInt8 := "ROOT\x00usb\\vid_1ffb&pid_2300&rev_0101\x00USB\x00\x00".toList.map
      fun c => UInt8.ofNat c.toNat
    let byte : Nat → UInt8 := fun i => bytes.getD i 97
    ∃ visited memory, walkHardwareIds bytes.length bytes.length ⟨byte, []⟩ =
        .ok (some (some (0x1ffb, 0x2300, 0x0101), visited), memory) ∧ visited.map (·.1) = [0, 5] ∧
      Traverses byte bytes.length (some (some (0x1ffb, 0x2300, 0x0101), visited)) memory := by
  intro bytes byte
  have walked : returns (walkHardwareIds bytes.length bytes.length) ⟨byte, []⟩ (fun r => decide
      (r.map (fun found => (found.1, found.2.map (·.1))) =
        some (some (0x1ffb, 0x2300, 0x0101), [0, 5]))) = true := by
    decide +kernel
  obtain ⟨r, memory, run, test⟩ := ok_of_returns walked
  obtain ⟨⟨numbers, visited⟩, rfl, found⟩ := Option.map_eq_some_iff.mp (of_decide_eq_true test)
  obtain ⟨rfl, places⟩ := Prod.mk.inj found
  exact ⟨visited, memory, run, places, (hardwareIds_traversed byte (Nat.le_refl _)).elim run⟩

/-- A hardware ID with three numbers is the last string that the walk comes to, even if there is another
one. -/
theorem hardwareIds_left :
    let bytes : List UInt8 :=
      "USB\\VID_1&PID_2&REV_3".toList.map (fun c => UInt8.ofNat c.toNat) ++ [0, 65, 0, 0]
    terminated bytes = true ∧
      ¬wp (walkHardwareIds bytes.length bytes.length) (fun r _ => ∃ numbers,
        r = some (numbers, stringsFrom 0 (multiStrings (bytes.map capitalize))))
        ⟨fun i => bytes.getD i 0, []⟩ := by
  intro bytes
  refine ⟨by decide +kernel, ?_⟩
  rintro ⟨r, memory, run, numbers, rfl⟩
  have one : (walkHardwareIds bytes.length bytes.length ⟨fun i => bytes.getD i 0, []⟩).toOption.elim 0
      (fun answer => answer.1.elim 0 fun found => found.2.length) = 1 := by decide +kernel
  have two : (stringsFrom 0 (multiStrings (bytes.map capitalize))).length = 2 := by decide +kernel
  rw [run] at one
  exact absurd (one.symm.trans two) (by decide)

end Libusbp.Windows
