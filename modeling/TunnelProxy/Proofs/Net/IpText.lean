import TunnelProxy.Net.Address
import TunnelProxy.Proofs.Text.Numeral

/-!
# Reading IP addresses back

The text of an IP address is read as the address, and it holds nothing but digits, dots and colons.
-/

namespace TunnelProxy
namespace Net

open Text (Numeral.hexText)
open Text.Numeral (digit? digits? digits?_toDigits digits?_eq_none not_mem_toDigits head?_toDigits
  digit?_eq_none_of_le)

/-! ## Cutting texts -/

theorem splitFirst?_eq_some_iff (separator : Char) (chars front back : List Char) :
    splitFirst? separator chars = some (front, back) ↔
      separator ∉ front ∧ chars = front ++ separator :: back := by
  induction chars generalizing front with
  | nil => simp [splitFirst?]
  | cons char rest ih =>
      rw [splitFirst?]
      split
      · rename_i same
        subst same
        constructor
        · rintro ⟨⟩
          simp
        · rintro ⟨absent, split⟩
          cases front with
          | nil => simp_all
          | cons first front => simp_all
      · rename_i differ
        simp only [Option.map_eq_some_iff, Prod.mk.injEq]
        constructor
        · rintro ⟨⟨before, after⟩, cut, rfl, rfl⟩
          obtain ⟨absent, rfl⟩ := (ih before).mp cut
          exact ⟨by simp [absent, Ne.symm differ], rfl⟩
        · rintro ⟨absent, split⟩
          cases front with
          | nil => simp_all
          | cons first front =>
              simp only [List.cons_append, List.cons.injEq] at split
              obtain ⟨rfl, rfl⟩ := split
              exact ⟨(front, back), (ih front).mpr ⟨fun later => absent (by simp [later]), rfl⟩,
                rfl, rfl⟩

theorem splitLast?_of_not_mem {separator : Char} {chars : List Char} (absent : separator ∉ chars) :
    splitLast? separator chars = none := by
  induction chars with
  | nil => rfl
  | cons char rest ih =>
      rw [List.mem_cons, not_or] at absent
      rw [splitLast?, ih absent.2]
      exact if_neg (Ne.symm absent.1)

theorem splitLast?_append {separator : Char} {back : List Char} (absent : separator ∉ back)
    (front : List Char) : splitLast? separator (front ++ separator :: back) = some (front, back) := by
  induction front with
  | nil => simp [splitLast?, splitLast?_of_not_mem absent]
  | cons char front ih => simp [splitLast?, ih]

theorem splitAt_append {separator : Char} {front : List Char} (absent : separator ∉ front)
    (back : List Char) :
    splitAt separator (front ++ separator :: back) = front :: splitAt separator back := by
  induction front with
  | nil => simp [splitAt]
  | cons char front ih =>
      rw [List.mem_cons, not_or] at absent
      simp [splitAt, ih absent.2, Ne.symm absent.1]

theorem splitAt_of_not_mem {separator : Char} {chars : List Char} (absent : separator ∉ chars) :
    splitAt separator chars = [chars] := by
  induction chars with
  | nil => rfl
  | cons char rest ih =>
      rw [List.mem_cons, not_or] at absent
      simp [splitAt, ih absent.2, Ne.symm absent.1]

/-- Pieces without a separator which are joined by it are found again. -/
theorem splitAt_intercalate {separator : Char} {pieces : List (List Char)} (nonempty : pieces ≠ [])
    (absent : ∀ piece ∈ pieces, separator ∉ piece) :
    splitAt separator ([separator].intercalate pieces) = pieces := by
  induction pieces with
  | nil => exact absurd rfl nonempty
  | cons piece pieces ih =>
      have here := absent piece List.mem_cons_self
      cases pieces with
      | nil => simpa using splitAt_of_not_mem here
      | cons next pieces =>
          rw [List.intercalate_cons_cons, List.append_assoc, List.singleton_append,
            splitAt_append here, ih (List.cons_ne_nil _ _)]
          exact fun later member => absent later (List.mem_cons_of_mem _ member)

/-- No character but separators is lost. -/
theorem exists_mem_splitAt {separator char : Char} (other : char ≠ separator) {chars : List Char}
    (member : char ∈ chars) : ∃ piece ∈ splitAt separator chars, char ∈ piece := by
  induction chars with
  | nil => cases member
  | cons first rest ih =>
      rw [splitAt]
      rcases List.mem_cons.mp member with rfl | later
      · rw [if_neg other]
        split
        · exact ⟨_, List.mem_cons_self, List.mem_cons_self⟩
        · exact ⟨_, List.mem_cons_self, List.mem_cons_self⟩
      · obtain ⟨piece, found, inside⟩ := ih later
        split
        · exact ⟨piece, List.mem_cons_of_mem _ found, inside⟩
        · split
          · rename_i pieces same
            rw [same] at found
            rcases List.mem_cons.mp found with rfl | behind
            · exact ⟨_, List.mem_cons_self, List.mem_cons_of_mem _ inside⟩
            · exact ⟨piece, List.mem_cons_of_mem _ behind, inside⟩
          · rename_i same
            rw [same] at found
            cases found

/-- What stands neither in a piece nor for the separator does not stand among joined pieces. -/
theorem not_mem_intercalate {separator char : Char} {pieces : List (List Char)}
    (other : char ≠ separator) (absent : ∀ piece ∈ pieces, char ∉ piece) :
    char ∉ [separator].intercalate pieces := by
  induction pieces with
  | nil => simp
  | cons piece pieces ih =>
      have here := absent piece List.mem_cons_self
      have later := ih fun next member => absent next (List.mem_cons_of_mem _ member)
      cases pieces with
      | nil => simpa using here
      | cons next pieces => simp [List.intercalate_cons_cons, here, other, later]

theorem length_intercalate_le {separator : Char} {pieces : List (List Char)} {most : Nat}
    (few : ∀ piece ∈ pieces, piece.length ≤ most) :
    ([separator].intercalate pieces).length ≤ (most + 1) * pieces.length := by
  induction pieces with
  | nil => simp
  | cons piece pieces ih =>
      have here := few piece List.mem_cons_self
      have later := ih fun next member => few next (List.mem_cons_of_mem _ member)
      cases pieces with
      | nil => simpa using Nat.le_succ_of_le here
      | cons next pieces =>
          rw [List.intercalate_cons_cons, List.length_append, List.length_append,
            List.length_singleton, List.length_cons (a := piece), Nat.mul_succ]
          omega

/-! ## Version 4 -/

theorem Ipv4.length_toDigits_le (octet : UInt8) : (Nat.toDigits 10 octet.toNat).length ≤ 3 := by
  have small := octet.toNat_lt
  exact (Nat.length_toDigits_le_iff (by decide) (by decide)).mpr (by omega)

theorem Ipv4.octet?_toDigits (octet : UInt8) : octet? (Nat.toDigits 10 octet.toNat) = some octet := by
  have small := octet.toNat_lt
  have few := length_toDigits_le octet
  have leading : ¬ ((Nat.toDigits 10 octet.toNat).head? = some '0' ∧
      (Nat.toDigits 10 octet.toNat).length ≠ 1) := by
    rintro ⟨zero, long⟩
    rw [head?_toDigits (by decide) zero] at long
    exact long rfl
  rw [octet?, if_pos ⟨few, leading⟩, digits?_toDigits (by decide) (by decide) (by omega)]
  simp

theorem Ipv4.text_toList (ip : Ipv4) :
    ip.text.toList = ['.'].intercalate
      [Nat.toDigits 10 ip.a.toNat, Nat.toDigits 10 ip.b.toNat, Nat.toDigits 10 ip.c.toNat,
        Nat.toDigits 10 ip.d.toNat] := by
  simp [Ipv4.text, List.intercalate_cons_cons]
  rfl

theorem Ipv4.parse?_text (ip : Ipv4) : parse? ip.text.toList = some ip := by
  have dot : ∀ value, '.' ∉ Nat.toDigits 10 value :=
    fun value => not_mem_toDigits (by decide) (by decide) rfl
  rw [parse?, text_toList, splitAt_intercalate (List.cons_ne_nil _ _) (by simp [dot])]
  simp [octet?_toDigits]

/-- An octet is nothing but digits. -/
theorem Ipv4.octet?_eq_none {char : Char} {chars : List Char} (member : char ∈ chars)
    (other : digit? 10 char = none) : octet? chars = none := by
  rw [octet?, digits?_eq_none member other]
  split <;> rfl

theorem Ipv4.parse?_of_dotless {chars : List Char} (dotless : '.' ∉ chars) : parse? chars = none := by
  rw [parse?, splitAt_of_not_mem dotless]

theorem Ipv4.parse?_of_colon {chars : List Char} (member : ':' ∈ chars) : parse? chars = none := by
  obtain ⟨piece, found, inside⟩ := exists_mem_splitAt (by decide : ':' ≠ '.') member
  have unread : octet? piece = none := octet?_eq_none inside rfl
  rw [parse?]
  split
  · rename_i a b c d pieces
    rw [pieces] at found
    simp only [List.mem_cons, List.not_mem_nil, or_false] at found
    rcases found with rfl | rfl | rfl | rfl <;> simp [unread]
  · rfl

theorem Ipv4.not_mem_text {char : Char} (other : digit? 10 char = none) (dotless : char ≠ '.')
    (ip : Ipv4) : char ∉ ip.text.toList := by
  have absent : ∀ value, char ∉ Nat.toDigits 10 value :=
    fun value => not_mem_toDigits (by decide) (by decide) other
  rw [text_toList]
  exact not_mem_intercalate dotless (by simp [absent])

theorem Ipv4.length_text_le (ip : Ipv4) : ip.text.toList.length ≤ 16 := by
  have few : ∀ piece ∈ [Nat.toDigits 10 ip.a.toNat, Nat.toDigits 10 ip.b.toNat,
      Nat.toDigits 10 ip.c.toNat, Nat.toDigits 10 ip.d.toNat], piece.length ≤ 3 := by
    simp [length_toDigits_le]
  rw [text_toList]
  exact length_intercalate_le few

/-! ## Version 6 -/

theorem toNat_group (high low : UInt8) :
    (group high low).toNat = high.toNat * 256 + low.toNat := by
  have high_lt := high.toNat_lt
  have low_lt := low.toNat_lt
  have fits : (high.toNat <<< 8) % 65536 = high.toNat <<< 8 := by
    rw [Nat.shiftLeft_eq]
    omega
  rw [group, UInt16.toNat_or, UInt16.toNat_shiftLeft]
  simp only [UInt8.toNat_toUInt16, UInt16.reduceToNat, Nat.reduceMod, Nat.reducePow, fits]
  rw [← Nat.shiftLeft_add_eq_or_of_lt (by omega), Nat.shiftLeft_eq]

/-- The octets of a group make the group. -/
theorem group_groupOctets (value : UInt16) : group (value >>> 8).toUInt8 value.toUInt8 = value := by
  have small := value.toNat_lt
  apply UInt16.toNat_inj.mp
  rw [toNat_group]
  simp [Nat.shiftRight_eq_div_pow]
  omega

theorem length_toDigits_le (value : UInt16) : (Nat.toDigits 16 value.toNat).length ≤ 4 := by
  have small := value.toNat_lt
  exact (Nat.length_toDigits_le_iff (by decide) (by decide)).mpr (by omega)

theorem group?_toDigits (value : UInt16) : group? (Nat.toDigits 16 value.toNat) = some value := by
  have small := value.toNat_lt
  rw [group?, if_pos (length_toDigits_le value), digits?_toDigits (by decide) (by decide) (by omega)]
  simp

theorem groupsText_toList (groups : List UInt16) :
    (groupsText groups).toList =
      [':'].intercalate (groups.map fun value => Nat.toDigits 16 value.toNat) := by
  simp [groupsText, Numeral.hexText, String.toList_intercalate, Function.comp_def]

theorem length_groupsText_le (groups : List UInt16) :
    (groupsText groups).toList.length ≤ 5 * groups.length := by
  have few : ∀ piece ∈ groups.map fun value => Nat.toDigits 16 value.toNat, piece.length ≤ 4 := by
    simp [length_toDigits_le]
  rw [groupsText_toList]
  simpa using length_intercalate_le few

theorem not_mem_groupsText {char : Char} (other : digit? 16 char = none) (joined : char ≠ ':')
    (groups : List UInt16) : char ∉ (groupsText groups).toList := by
  rw [groupsText_toList]
  refine not_mem_intercalate joined fun piece member => ?_
  obtain ⟨value, -, rfl⟩ := List.mem_map.mp member
  exact not_mem_toDigits (by decide) (by decide) other

namespace Ipv6

theorem pieces?_toDigits (groups : List UInt16) :
    pieces? (groups.map fun value => Nat.toDigits 16 value.toNat) = some groups := by
  induction groups with
  | nil => rfl
  | cons value groups ih =>
      cases groups with
      | nil => simp [pieces?, group?_toDigits]
      | cons next groups =>
          rw [List.map_cons] at ih
          simp [pieces?, group?_toDigits, ih]

theorem side?_groupsText (groups : List UInt16) :
    side? (groupsText groups).toList = some groups := by
  have colon : ∀ value, ':' ∉ Nat.toDigits 16 value :=
    fun value => not_mem_toDigits (by decide) (by decide) rfl
  rw [side?, groupsText_toList]
  cases groups with
  | nil => rfl
  | cons value groups =>
      have some_piece : (value :: groups).map (fun value => Nat.toDigits 16 value.toNat) ≠ [] := by
        simp
      have some_char : [':'].intercalate
          ((value :: groups).map fun value => Nat.toDigits 16 value.toNat) ≠ [] := by
        cases groups <;> simp [List.intercalate_cons_cons, Nat.toDigits_ne_nil]
      rw [if_neg (by simpa using some_char), splitAt_intercalate some_piece (by simp [colon]),
        pieces?_toDigits]

/-! ### Gaps -/

theorem splitGap?_append {front : List Char} (absent : ':' ∉ front) (back : List Char) :
    splitGap? (front ++ back) =
      (splitGap? back).map fun (before, after) => (front ++ before, after) := by
  induction front with
  | nil => simp
  | cons char front ih =>
      rw [List.mem_cons, not_or] at absent
      rw [List.cons_append, splitGap?.eq_def]
      split
      · simp_all
      · rename_i same
        cases same
        rw [ih absent.2, Option.map_map]
        rfl
      · simp_all

/-- There is no gap within groups. -/
theorem splitGap?_intercalate {pieces : List (List Char)}
    (proper : ∀ piece ∈ pieces, piece ≠ [] ∧ ':' ∉ piece) (back : List Char) :
    splitGap? ([':'].intercalate pieces ++ back) =
      (splitGap? back).map fun (before, after) =>
        ([':'].intercalate pieces ++ before, after) := by
  induction pieces with
  | nil => simp
  | cons piece pieces ih =>
      have here := proper piece List.mem_cons_self
      have later := ih fun next member => proper next (List.mem_cons_of_mem _ member)
      cases pieces with
      | nil => simpa using splitGap?_append here.2 back
      | cons next pieces =>
          have proper_next := proper next (by simp)
          -- A single colon is no gap, as the next piece does not begin with one.
          have single : splitGap? (':' :: ([':'].intercalate (next :: pieces) ++ back)) =
              (splitGap? ([':'].intercalate (next :: pieces) ++ back)).map
                fun (before, after) => (':' :: before, after) := by
            obtain ⟨first, rest, rfl⟩ := List.exists_cons_of_ne_nil proper_next.1
            have different : first ≠ ':' := by
              rintro rfl
              exact proper_next.2 List.mem_cons_self
            cases pieces <;> simp [List.intercalate_cons_cons, splitGap?, different]
          rw [List.intercalate_cons_cons, List.append_assoc, List.append_assoc,
            splitGap?_append here.2, List.singleton_append, single, later]
          simp [Option.map_map, Function.comp_def]

theorem splitGap?_groupsText (groups : List UInt16) (back : List Char) :
    splitGap? ((groupsText groups).toList ++ back) =
      (splitGap? back).map fun (before, after) =>
        ((groupsText groups).toList ++ before, after) := by
  rw [groupsText_toList]
  refine splitGap?_intercalate (fun piece member => ?_) back
  obtain ⟨value, -, rfl⟩ := List.mem_map.mp member
  exact ⟨Nat.toDigits_ne_nil, not_mem_toDigits (by decide) (by decide) rfl⟩

end Ipv6

theorem leadingZeros_append (groups : List UInt16) :
    ∃ back, groups = List.replicate (leadingZeros groups) 0 ++ back := by
  induction groups with
  | nil => exact ⟨[], rfl⟩
  | cons value groups ih =>
      obtain ⟨back, same⟩ := ih
      rw [leadingZeros]
      split
      · rename_i zero
        refine ⟨back, ?_⟩
        rw [List.replicate_succ, List.cons_append, ← same, zero]
      · exact ⟨value :: groups, rfl⟩

/-- A run of zero groups stands where it is said to. -/
theorem longestZeroRun_append (index : Nat) (groups : List UInt16) :
    ∃ front back, (longestZeroRun index groups).start = index + front.length ∧
      groups = front ++ List.replicate (longestZeroRun index groups).length 0 ++ back := by
  induction groups generalizing index with
  | nil => exact ⟨[], [], rfl, rfl⟩
  | cons value groups ih =>
      rw [longestZeroRun]
      split
      · obtain ⟨back, same⟩ := leadingZeros_append (value :: groups)
        exact ⟨[], back, rfl, same⟩
      · obtain ⟨front, back, start, same⟩ := ih (index + 1)
        refine ⟨value :: front, back, ?_, ?_⟩
        · rw [start, List.length_cons]
          omega
        · rw [List.cons_append, List.cons_append, ← same]

namespace Ipv6

theorem groups_of_mapped? {ip : Ipv6} {v4 : Ipv4} (mapped : ip.mapped? = some v4) :
    ip.groups = [0, 0, 0, 0, 0, 0xFFFF, group v4.a v4.b, group v4.c v4.d] := by
  rw [mapped?] at mapped
  split at mapped
  · rename_i high low same
    cases mapped
    simp [same, group_groupOctets]
  · cases mapped

/-- The forms of the text of an address. -/
theorem text_cases (ip : Ipv6) :
    (∃ v4, ip.mapped? = some v4 ∧ ip.text.toList = "::ffff:".toList ++ v4.text.toList) ∨
      (∃ front zeros back, 1 < zeros ∧ ip.groups = front ++ List.replicate zeros 0 ++ back ∧
        ip.text.toList =
          (groupsText front).toList ++ "::".toList ++ (groupsText back).toList) ∨
      ip.text.toList = (groupsText ip.groups).toList := by
  cases mapped : ip.mapped? with
  | some v4 =>
      refine .inl ⟨v4, rfl, ?_⟩
      rw [text, mapped]
      exact String.toList_append
  | none =>
      obtain ⟨front, back, start, same⟩ := longestZeroRun_append 0 ip.groups
      rw [text, mapped]
      dsimp only
      split
      · rename_i long
        refine .inr (.inl ⟨front, _, back, long, same, ?_⟩)
        rw [Nat.zero_add] at start
        have before : ip.groups.take front.length = front := by
          rw [same, List.append_assoc, List.take_left]
        have behind : ip.groups.drop (front.length + (longestZeroRun 0 ip.groups).length) = back :=
          (congrArg (List.drop _) same).trans (List.drop_left' (by simp))
        rw [start, before, behind, String.toList_append, String.toList_append]
      · exact .inr (.inr rfl)

/-- The last piece of an address may be an address of version 4. -/
theorem side?_of_mapped? (v4 : Ipv4) :
    side? ("ffff:".toList ++ v4.text.toList) = some [0xFFFF, group v4.a v4.b, group v4.c v4.d] := by
  have whole : ':' ∉ v4.text.toList := v4.not_mem_text rfl (by decide)
  have dotted : group? v4.text.toList = none := by
    have dot : '.' ∈ v4.text.toList := by
      simp [Ipv4.text_toList, List.intercalate_cons_cons]
    rw [group?, digits?_eq_none dot rfl]
    split <;> rfl
  have cut : splitAt ':' ("ffff:".toList ++ v4.text.toList) = ["ffff".toList, v4.text.toList] := by
    rw [show "ffff:".toList ++ v4.text.toList = "ffff".toList ++ ':' :: v4.text.toList from rfl,
      splitAt_append (by decide), splitAt_of_not_mem whole]
  have first : group? "ffff".toList = some 0xFFFF := by decide
  rw [side?, if_neg (by simp), cut, pieces?, first]
  · simp [pieces?, dotted, Ipv4.parse?_text]
  · simp

/-- A gap is filled up with zero groups. -/
theorem parse?_of_gap {chars front back : List Char} {head tail : List UInt16}
    (cut : splitGap? chars = some (front, back)) (dotless : '.' ∉ front)
    (before : side? front = some head) (behind : side? back = some tail)
    (short : head.length + tail.length ≤ 7) :
    parse? chars =
      ofGroups? (head ++ List.replicate (8 - head.length - tail.length) 0 ++ tail) := by
  rw [parse?, cut]
  simp [dotless, before, behind, short]

theorem parse?_text (ip : Ipv6) : parse? ip.text.toList = some ip := by
  have restored : ofGroups? ip.groups = some ip := rfl
  rcases ip.text_cases with
    ⟨v4, mapped, shown⟩ | ⟨front, zeros, back, long, same, shown⟩ | shown
  · have cut : splitGap? ip.text.toList = some ([], "ffff:".toList ++ v4.text.toList) := by
      rw [shown]
      rfl
    rw [parse?_of_gap cut (by simp) rfl (side?_of_mapped? v4) (by simp), ← restored,
      groups_of_mapped? mapped]
    rfl
  · have lengths := congrArg List.length same
    rw [show ip.groups.length = 8 from rfl, List.length_append, List.length_append,
      List.length_replicate] at lengths
    have cut : splitGap? ip.text.toList =
        some ((groupsText front).toList, (groupsText back).toList) := by
      rw [shown, List.append_assoc, splitGap?_groupsText]
      simp [splitGap?]
    have filled : 8 - front.length - back.length = zeros := by omega
    rw [parse?_of_gap cut (not_mem_groupsText rfl (by decide) front) (side?_groupsText front)
      (side?_groupsText back) (by omega), filled, ← same, restored]
  · have whole : splitGap? ip.text.toList = none := by
      rw [shown]
      simpa [splitGap?] using splitGap?_groupsText ip.groups []
    rw [parse?, whole, shown]
    simpa [side?_groupsText] using restored

theorem parse?_of_colonless {chars : List Char} (colonless : ':' ∉ chars) (dotless : '.' ∉ chars) :
    parse? chars = none := by
  have whole : splitGap? chars = none := by
    simpa [splitGap?] using splitGap?_append colonless []
  rw [parse?, whole]
  dsimp only
  rw [side?, splitAt_of_not_mem colonless, pieces?, Ipv4.parse?_of_dotless dotless]
  split
  · rfl
  · cases group? chars <;> rfl

theorem colon_mem_text (ip : Ipv6) : ':' ∈ ip.text.toList := by
  rcases ip.text_cases with ⟨v4, -, shown⟩ | ⟨front, zeros, back, -, -, shown⟩ | shown
  · simp [shown]
  · simp [shown]
  · simp [shown, groupsText_toList, groups, List.intercalate_cons_cons]

theorem length_text_le (ip : Ipv6) : ip.text.toList.length ≤ 42 := by
  have eight : ip.groups.length = 8 := rfl
  rcases ip.text_cases with ⟨v4, -, shown⟩ | ⟨front, zeros, back, -, same, shown⟩ | shown
  · have short := v4.length_text_le
    simp only [shown, List.length_append]
    have seven : "::ffff:".toList.length = 7 := rfl
    omega
  · have before := length_groupsText_le front
    have behind := length_groupsText_le back
    have two : "::".toList.length = 2 := rfl
    have lengths := congrArg List.length same
    simp only [List.length_append, List.length_replicate] at lengths
    simp only [shown, List.length_append]
    omega
  · have short := length_groupsText_le ip.groups
    rw [shown]
    omega

/-- The text of an address has no brackets, for instance. -/
theorem not_mem_text {char : Char} (other : digit? 16 char = none) (joined : char ≠ ':')
    (dotless : char ≠ '.') (ip : Ipv6) : char ∉ ip.text.toList := by
  have absent := not_mem_groupsText other joined
  rcases ip.text_cases with ⟨v4, -, shown⟩ | ⟨front, zeros, back, -, -, shown⟩ | shown
  · have hexadecimal : char ≠ 'f' := by
      rintro rfl
      cases other
    have decimal : digit? 10 char = none := digit?_eq_none_of_le (by decide) other
    simp [shown, joined, hexadecimal, v4.not_mem_text decimal dotless]
  · simp [shown, absent, joined]
  · simp [shown, absent]

end Ipv6

/-- The text of an IP address is read as the address. -/
theorem IpAddr.parse?_text (ip : IpAddr) : parse? ip.text.toList = some ip := by
  cases ip with
  | v4 ip => simp [parse?, text, Ipv4.parse?_text]
  | v6 ip => simp [parse?, text, Ipv4.parse?_of_colon ip.colon_mem_text, Ipv6.parse?_text]

/-- A name without dots and colons is no IP address. -/
theorem IpAddr.parse?_of_plain {chars : List Char} (dotless : '.' ∉ chars) (colonless : ':' ∉ chars) :
    parse? chars = none := by
  rw [parse?, Ipv4.parse?_of_dotless dotless, Ipv6.parse?_of_colonless colonless dotless]
  rfl

end Net
end TunnelProxy
