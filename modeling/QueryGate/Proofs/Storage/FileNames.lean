import Mathlib.Data.List.TakeWhile
import QueryGate.Proofs.Document.Lexing
import QueryGate.Storage.Configuration

/-!
The names of query files.

The name of a query file is the name of a query, a dot and one of the known
extensions. A name that has nothing before its dot is none, and neither is one whose
query would not have a name of text.
-/

namespace QueryGate.Storage

open QueryGate.Text

theorem FileName.ofText_append (first second : String) :
    FileName.ofText (first ++ second) = FileName.ofText first ++
      FileName.ofText second := by
  simp [FileName.ofText, String.toUTF8]

theorem FileName.ofText_injective {first second : String}
    (h : FileName.ofText first = FileName.ofText second) : first = second :=
  Option.some.inj ((decode?_eq_some_iff.mpr rfl).symm.trans
    (decode?_eq_some_iff.mpr h))

/-- A name is split at its last dot. -/
theorem splitExtension?_append {stem extension : FileName} (h : dot ∉ extension) :
    splitExtension? (stem ++ dot :: extension) =
      if stem.isEmpty then none else some (stem, extension) := by
  have hrun : ((stem ++ dot :: extension).reverse.takeWhile (· != dot)).reverse =
      extension := by
    have hextension : ∀ byte ∈ extension.reverse, (byte != dot) = true := by
      intro byte hbyte
      rw [bne_iff_ne]
      rintro rfl
      exact h (List.mem_reverse.mp hbyte)
    rw [List.reverse_append, List.reverse_cons, List.append_assoc,
      takeWhile_append_of_stops hextension (by simp), List.reverse_reverse]
  have hlength : (stem ++ dot :: extension).length - extension.length =
      stem.length + 1 := by
    simp only [List.length_append, List.length_cons]
    omega
  have hfront : ((stem ++ dot :: extension).take (stem.length + 1)).dropLast =
      stem := by
    rw [List.append_cons, List.take_left' (by simp), List.dropLast_concat]
  simp only [splitExtension?, hrun, hlength, hfront]

theorem splitExtension?_of_notMem {name : FileName} (h : dot ∉ name) :
    splitExtension? name = none := by
  have hrun : (name.reverse.takeWhile (· != dot)).reverse = name := by
    rw [List.takeWhile_eq_self_iff.mpr, List.reverse_reverse]
    intro byte hbyte
    rw [bne_iff_ne]
    rintro rfl
    exact h (List.mem_reverse.mp hbyte)
  simp [splitExtension?, hrun]

theorem splitExtension?_eq_some_iff {name stem extension : FileName} :
    splitExtension? name = some (stem, extension) ↔
      name = stem ++ dot :: extension ∧ dot ∉ extension ∧ stem ≠ [] := by
  constructor
  · intro h
    by_cases hdot : dot ∈ name
    · obtain ⟨after, before, hsplit, hlast⟩ :=
        List.eq_append_cons_of_mem (List.mem_reverse.mpr hdot)
      have hname : name = before.reverse ++ dot :: after.reverse := by
        rw [← List.reverse_inj, hsplit]
        simp
      have hafter : dot ∉ after.reverse := by simpa using hlast
      rw [hname, splitExtension?_append hafter] at h
      split at h
      · cases h
      · next hstem =>
          cases h
          exact ⟨hname, hafter, by simpa using hstem⟩
    · rw [splitExtension?_of_notMem hdot] at h
      cases h
  · rintro ⟨rfl, hextension, hstem⟩
    rw [splitExtension?_append hextension, if_neg (by simpa using hstem)]

/-- A file name is the one of a query with a name. -/
structure NamesQuery (fileName : FileName) (name : String) : Prop where
  ne_empty : name ≠ ""
  extended : ∃ extension ∈ queryExtensions,
    fileName = .ofText (name ++ "." ++ extension)

theorem queryStem?_eq_some_iff {name stem : FileName} :
    queryStem? name = some stem ↔
      stem ≠ [] ∧ ∃ extension ∈ queryExtensions,
        name = stem ++ dot :: FileName.ofText extension := by
  have hplain : ∀ extension ∈ queryExtensions, dot ∉ FileName.ofText extension := by
    decide +kernel
  constructor
  · intro h
    obtain ⟨⟨stem', extension⟩, hsplit, hknown⟩ := Option.bind_eq_some_iff.mp h
    obtain ⟨rfl, _, hstem⟩ := splitExtension?_eq_some_iff.mp hsplit
    dsimp only at hknown
    split at hknown
    · next hmem =>
        cases hknown
        obtain ⟨text, htext, rfl⟩ := List.mem_map.mp (List.contains_iff_mem.mp hmem)
        exact ⟨hstem, text, htext, rfl⟩
    · cases hknown
  · rintro ⟨hstem, extension, hextension, rfl⟩
    have hsplit :=
      splitExtension?_eq_some_iff.mpr ⟨rfl, hplain extension hextension, hstem⟩
    have hknown :
        (queryExtensions.map FileName.ofText).contains
          (FileName.ofText extension) = true :=
      List.contains_iff_mem.mpr (List.mem_map_of_mem hextension)
    rw [queryStem?, hsplit]
    exact if_pos hknown

/-- What is read from a file name is the name of its query. -/
theorem namesQuery_iff {fileName : FileName} {name : String} :
    NamesQuery fileName name ↔ (queryStem? fileName).bind decode? = some name := by
  have hdot : FileName.ofText "." = [dot] := by decide +kernel
  have hempty : FileName.ofText "" = [] := by decide +kernel
  have hbytes : ∀ extension, FileName.ofText (name ++ "." ++ extension) =
      FileName.ofText name ++ dot :: FileName.ofText extension :=
        fun extension => by
    rw [FileName.ofText_append, FileName.ofText_append, hdot, List.append_assoc,
      List.singleton_append]
  simp only [Option.bind_eq_some_iff, queryStem?_eq_some_iff, decode?_eq_some_iff]
  constructor
  · rintro ⟨hne, extension, hextension, rfl⟩
    refine ⟨_,
      ⟨fun hnil => hne (FileName.ofText_injective (hnil.trans hempty.symm)),
        extension, hextension, hbytes extension⟩, rfl⟩
  · rintro ⟨_, ⟨hne, extension, hextension, rfl⟩, rfl⟩
    refine ⟨?_, extension, hextension, (hbytes extension).symm⟩
    rintro rfl
    exact hne hempty

end QueryGate.Storage
