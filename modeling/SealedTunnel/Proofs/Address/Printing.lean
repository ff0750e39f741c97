import SealedTunnel.Proofs.Address.Spelling

/-!
Addresses are read as they are printed, whatever run of zeros an address of the sixth version leaves out, and with an
address of the fourth version at its end if it holds one.
-/
namespace SealedTunnel

namespace Ipv6

/-- The groups as they are printed, with colons between them and, unless they come first, in front. -/
def written (first : Bool) : List UInt16 → List Char
  | [] => []
  | group :: others => between first ++ (Nat.toDigits 16 group.toNat ++ written false others)

theorem toList_groupsText (groups : List UInt16) : (groupsText groups).toList = written true groups := by
  induction groups with
  | nil => rfl
  | cons group others ih =>
      cases others with
      | nil => simp [groupsText, written, between]
      | cons next others =>
          simp only [groupsText, String.toList_intercalate, List.map_cons, List.intercalate_cons_cons] at ih ⊢
          rw [ih]
          simp [written, between]

theorem isGroup_toDigits (group : UInt16) : IsGroup (Nat.toDigits 16 group.toNat) :=
  ⟨fun _ member => Text.isDigitOf_toDigits (by decide) (by decide) member, Nat.toDigits_ne_nil,
    (Nat.length_toDigits_le_iff (by decide) (by decide)).mpr group.toNat_lt⟩

theorem spells_cons (group : UInt16) (first : Bool) {embedded : Bool} {chars : List Char} {groups : List UInt16}
    (others : Spells false embedded chars groups) :
    Spells first embedded (between first ++ (Nat.toDigits 16 group.toNat ++ chars)) (group :: groups) := by
  have spells := Spells.group first (isGroup_toDigits group) others
  rwa [Text.numberOf_toDigits (by decide) (by decide), UInt16.ofNat_toNat] at spells

theorem spells_written (first : Bool) (groups : List UInt16) : Spells first false (written first groups) groups := by
  induction groups generalizing first with
  | nil => exact .nothing first
  | cons group others ih => exact spells_cons group first (ih false)

section Runs

variable {all : List UInt16} {start length index bestStart best : Nat}

def IsRun (all : List UInt16) (start length : Nat) : Prop :=
  ∀ index, start ≤ index → index < start + length → all[index]? = some 0

theorem IsRun.none (all : List UInt16) (start : Nat) : IsRun all start 0 := by
  intro index above below
  omega

theorem IsRun.next (run : IsRun all start length) (zero : all[start + length]? = some 0) : IsRun all start (length + 1) := by
  intro index above below
  rcases Nat.lt_succ_iff_lt_or_eq.mp below with inside | rfl
  · exact run index above inside
  · exact zero

theorem IsRun.drop (run : IsRun all start length) :
    all.drop start = List.replicate length 0 ++ all.drop (start + length) := by
  induction length generalizing start with
  | zero => rfl
  | succ length ih =>
      obtain ⟨inside, zero⟩ := List.getElem?_eq_some_iff.mp (run start (Nat.le_refl start) (by omega))
      have later : IsRun all (start + 1) length := fun index above below => run index (by omega) (by omega)
      rw [List.drop_eq_getElem_cons inside, zero, ih later, List.replicate_succ, List.cons_append]
      congr 3
      omega

theorem IsRun.split (run : IsRun all start length) :
    all = all.take start ++ (List.replicate length 0 ++ all.drop (start + length)) := by
  rw [← run.drop, List.take_append_drop]

theorem isRun_longestRun {groups : List UInt16} (here : all.drop index = groups) (run : IsRun all start length)
    (adjacent : length ≠ 0 → start + length = index) (found : IsRun all bestStart best) :
    IsRun all (longestRun index start length bestStart best groups).1
      (longestRun index start length bestStart best groups).2 := by
  induction groups generalizing index start length bestStart best with
  | nil => exact found
  | cons group others ih =>
      have later : all.drop (index + 1) = others := by rw [← List.drop_drop, here, List.drop_one, List.tail_cons]
      rw [longestRun]
      by_cases zero : group = 0
      · have here : all[index]? = some 0 := by rw [← List.head?_drop, here, List.head?_cons, zero]
        have longer : IsRun all (if length = 0 then index else start) (length + 1) ∧
            (if length = 0 then index else start) + (length + 1) = index + 1 := by
          by_cases fresh : length = 0
          · subst fresh
            exact ⟨(IsRun.none all index).next here, rfl⟩
          · rw [if_neg fresh]
            have ends := adjacent fresh
            exact ⟨run.next (ends ▸ here), by omega⟩
        simp only [if_pos zero]
        split
        · exact ih later longer.1 (fun _ => longer.2) longer.1
        · exact ih later longer.1 (fun _ => longer.2) found
      · rw [if_neg zero]
        exact ih later (IsRun.none all 0) (fun longer => absurd rfl longer) found

end Runs

variable {ip : Ipv6} {front back : List UInt16}

theorem ofParts_split (length : Nat) (split : ip.groups = front ++ (List.replicate length 0 ++ back)) :
    ofParts front back = ip := by
  have eight := ip.length_groups
  have sized : 8 - front.length - back.length = length := by
    rw [split] at eight
    simp at eight
    omega
  have groups : front ++ List.replicate (8 - front.length - back.length) 0 ++ back = ip.groups := by
    rw [sized, List.append_assoc, split]
  cases ip
  simp only at groups eight
  simp [ofParts, groups, eight, List.take_of_length_le]

/-- The groups of an address of the fourth version, the first of which is printed as `ffff`. -/
def mappedGroups (embedded : Ipv4) : List UInt16 :=
  [0xffff, UInt16.ofNat (embedded.a.toNat * 256 + embedded.b.toNat), UInt16.ofNat (embedded.c.toNat * 256 + embedded.d.toNat)]

theorem isText_mapped (embedded : Ipv4) :
    IsText ("::ffff:".toList ++ embedded.text.toList) (ofParts [] (mappedGroups embedded)) := by
  have marks : "::ffff:".toList = ':' :: ':' :: (Nat.toDigits 16 (0xffff : UInt16).toNat ++ [':']) := by decide
  have back : Spells true true (Nat.toDigits 16 (0xffff : UInt16).toNat ++ ':' :: embedded.text.toList)
      (mappedGroups embedded) := spells_cons 0xffff true (.embedded false embedded)
  have text := IsText.shortened (.nothing true) back (by simp [mappedGroups])
  rwa [marks, List.cons_append, List.cons_append, List.append_assoc, List.singleton_append]

theorem ofParts_mapped {embedded : Ipv4} (mapped : ip.mapped? = some embedded) :
    ofParts [] (mappedGroups embedded) = ip := by
  unfold mapped? at mapped
  split at mapped
  · next front =>
      split at mapped
      · next high low back =>
          cases mapped
          have split := List.take_append_drop 6 ip.groups
          rw [front, back] at split
          have upper : high.toNat < 65536 := high.toNat_lt
          have lower : low.toNat < 65536 := low.toNat_lt
          apply ofParts_split 5
          rw [← split]
          simp [mappedGroups, Ipv4.ofNat, ← UInt16.toNat_inj]
          omega
      · cases mapped
  · cases mapped

theorem isText_text (ip : Ipv6) : IsText ip.text.toList ip := by
  unfold text
  cases mapped : ip.mapped? with
  | some embedded =>
      have text := isText_mapped embedded
      rwa [ofParts_mapped mapped, ← String.toList_append] at text
  | none =>
      have run : IsRun ip.groups (longestRun 0 0 0 0 0 ip.groups).1 (longestRun 0 0 0 0 0 ip.groups).2 :=
        isRun_longestRun rfl (IsRun.none _ 0) (fun longer => absurd rfl longer) (IsRun.none _ 0)
      dsimp only
      generalize longestRun 0 0 0 0 0 ip.groups = found at run ⊢
      by_cases long : found.2 > 1
      · have fits : (ip.groups.take found.1).length + (ip.groups.drop (found.1 + found.2)).length ≤ 7 := by
          have eight := ip.length_groups
          rw [run.split] at eight
          simp only [List.length_append, List.length_replicate] at eight
          omega
        have text := IsText.shortened (spells_written true (ip.groups.take found.1))
          (spells_written true (ip.groups.drop (found.1 + found.2))) fits
        rw [ofParts_split _ run.split] at text
        rw [if_pos long, String.toList_append, String.toList_append, toList_groupsText, toList_groupsText, List.append_assoc]
        exact text
      · have whole : ip.groups = ip.groups ++ (List.replicate 0 0 ++ []) := by simp
        have text := IsText.whole (spells_written true ip.groups) ip.length_groups
        rw [ofParts_split _ whole] at text
        rwa [if_neg long, toList_groupsText]

theorem read_text (ip : Ipv6) {rest : List Char} (other : ∀ c ∈ rest.head?, isAddressChar c = false) :
    read (ip.text.toList ++ rest) = some (ip, rest) :=
  ip.isText_text.read (Closes.foreign other)

end Ipv6
end SealedTunnel
