import Mathlib.Data.Multiset.MapFold
import QueryGate.Document.Item
import QueryGate.Proofs.Sorting
import QueryGate.Proofs.Text.Bytes

/-!
When texts and fragments count as the same.

Texts are compared by those of their bytes that are letters or digits of ASCII,
fragments by their names and by the letters and digits among the characters of their
texts. As no byte of another character is one of ASCII, the bytes that are left of a
text are the bytes of the characters that are left of it. The keys of fragments are
sorted to be compared, and two lists of them come to the same exactly when they hold
the same keys equally often.
-/

namespace QueryGate

namespace Text

theorem ofUInt8_injective : Function.Injective Char.ofUInt8 := by
  intro a b h
  rw [← UInt8.toNat_inj, ← toNat_ofUInt8, h, toNat_ofUInt8]

theorem isAscii_of_isAlphanum {c : Char} (h : c.isAlphanum = true) : IsAscii c :=
  isAscii_of_isWordChar (by rw [isWordChar, h, Bool.true_or])

theorem isAlphanumericByte_eq (byte : UInt8) :
    isAlphanumericByte byte = (Char.ofUInt8 byte).isAlphanum := by
  rw [Bool.eq_iff_iff, isAlphanumericByte_iff, isAlphanum_iff, toNat_ofUInt8]

theorem map_ofUInt8_utf8 (s : String) :
    (utf8 s).map Char.ofUInt8 = bytes s.toList := by
  have hbytes : utf8 s = s.toList.flatMap String.utf8EncodeChar := by
    rw [utf8, String.toUTF8, ← String.utf8Encode_toList, List.utf8Encode,
      List.data_toByteArray]
  rw [hbytes, List.map_flatMap]
  rfl

theorem map_ofUInt8_alphanumericBytes (s : String) :
    (alphanumericBytes s).map Char.ofUInt8 = alphanumerics s.toList := by
  have hpick : isAlphanumericByte = Char.isAlphanum ∘ Char.ofUInt8 :=
    funext isAlphanumericByte_eq
  rw [alphanumericBytes, hpick, ← List.filter_map, map_ofUInt8_utf8,
    filter_bytes fun _ => isAscii_of_isAlphanum, alphanumerics]

/-- The bytes that are left of a text are those of the characters that are left of
it. -/
theorem alphanumericBytes_eq (s : String) :
    alphanumericBytes s = utf8 (String.ofList (alphanumerics s.toList)) := by
  have hascii : ∀ c ∈ alphanumerics s.toList, IsAscii c := fun c hc =>
    isAscii_of_isAlphanum (List.mem_filter.mp hc).2
  apply ofUInt8_injective.list_map
  rw [map_ofUInt8_alphanumericBytes, map_ofUInt8_utf8, String.toList_ofList,
    bytes_of_isAscii hascii]

theorem alphanumericBytes_eq_iff {a b : String} :
    alphanumericBytes a = alphanumericBytes b ↔
      alphanumerics a.toList = alphanumerics b.toList := by
  rw [← map_ofUInt8_alphanumericBytes, ← map_ofUInt8_alphanumericBytes,
    ofUInt8_injective.list_map.eq_iff]

end Text

namespace Document

open QueryGate.Text

theorem sameText_iff {a b : String} :
    sameText a b = true ↔ alphanumerics a.toList = alphanumerics b.toList := by
  rw [sameText, beq_iff_eq, alphanumericBytes_eq_iff]

instance : Std.TransCmp compareKeys :=
  inferInstanceAs (Std.TransCmp lexOrd.compare)

instance : Std.LawfulEqCmp compareKeys :=
  inferInstanceAs (Std.LawfulEqCmp lexOrd.compare)

theorem compareKeys_total (k l : String × List Char) :
    ((compareKeys k l).isLE || (compareKeys l k).isLE) = true := by
  have hswap : compareKeys l k = (compareKeys k l).swap := Std.OrientedCmp.eq_swap
  rw [hswap]
  cases compareKeys k l <;> rfl

theorem compareKeys_antisymm {k l : String × List Char}
    (hkl : (compareKeys k l).isLE = true)
    (hlk : (compareKeys l k).isLE = true) : k = l :=
  Std.LawfulEqCmp.eq_of_compare (Std.OrientedCmp.isLE_antisymm hkl hlk)

/-- Whatever sorts the keys of fragments comes to the same list. -/
theorem eq_sortedKeys_iff {fragments : List Fragment}
    {keys : List (String × List Char)} :
    keys = sortedKeys fragments ↔
      keys.Perm (fragments.map fun f => (f.name, alphanumerics f.value.toList)) ∧
        keys.Pairwise fun k l => (compareKeys k l).isLE = true :=
  eq_mergeSort_iff (fun _ _ _ => Std.TransCmp.isLE_trans) compareKeys_total
    fun _ _ => compareKeys_antisymm

theorem sortedKeys_eq_iff {fragments others : List Fragment} :
    sortedKeys fragments = sortedKeys others ↔
      (fragments.map fun f => (f.name, alphanumerics f.value.toList)).Perm
        (others.map fun f => (f.name, alphanumerics f.value.toList)) :=
  mergeSort_eq_mergeSort_iff (fun _ _ _ => Std.TransCmp.isLE_trans)
    compareKeys_total fun _ _ => compareKeys_antisymm

theorem Item.sameFragments_iff {a b : Item} :
    a.sameFragments b = true ↔
      (a.fragments.map fun f => (f.name, alphanumerics f.value.toList)).Perm
        (b.fragments.map fun f => (f.name, alphanumerics f.value.toList)) := by
  rw [sameFragments, Bool.and_eq_true, beq_iff_eq, beq_iff_eq, sortedKeys_eq_iff]
  constructor
  · exact And.right
  · intro h
    exact ⟨by simpa using h.length_eq, h⟩

/-- Both comparisons are equivalences, as each asks whether two normal forms are the
same one. Texts count by their letters and digits, which are the same for their
bytes as for their characters. Fragments count as a multiset of pairs, each of the
exact name and of the letters and digits among the characters of the text; in
ascending order this is one list, whatever sorts them. -/
theorem compared_by_normal_forms :
    (∀ a b : String, sameText a b = true ↔
      alphanumerics a.toList = alphanumerics b.toList) ∧
    (∀ s : String, alphanumericBytes s =
      utf8 (String.ofList (alphanumerics s.toList))) ∧
    (∀ a b : Item, a.sameFragments b = true ↔
      (a.fragments : Multiset Fragment).map
          (fun f => (f.name, alphanumerics f.value.toList)) =
        (b.fragments : Multiset Fragment).map
          fun f => (f.name, alphanumerics f.value.toList)) ∧
    (∀ (fragments : List Fragment) (keys : List (String × List Char)),
      keys = sortedKeys fragments ↔
        keys.Perm (fragments.map fun f => (f.name, alphanumerics f.value.toList)) ∧
          keys.Pairwise fun k l => (compareKeys k l).isLE = true) ∧
    Equivalence (fun a b : String => sameText a b = true) ∧
    Equivalence (fun a b : Item => a.sameFragments b = true) := by
  refine ⟨fun _ _ => sameText_iff, alphanumericBytes_eq, fun a b => ?fragments,
    fun _ _ => eq_sortedKeys_iff, ?text, ?items⟩
  case fragments =>
    rw [Multiset.map_coe, Multiset.map_coe, Multiset.coe_eq_coe]
    exact Item.sameFragments_iff
  case text =>
    simp only [sameText_iff]
    exact ⟨fun _ => rfl, Eq.symm, Eq.trans⟩
  case items =>
    simp only [Item.sameFragments_iff]
    exact ⟨fun _ => .refl _, .symm, .trans⟩

end Document

end QueryGate
