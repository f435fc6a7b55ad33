import QueryGate.Proofs.Engine.Servable
import QueryGate.Proofs.Engine.Registering
import QueryGate.Proofs.Sequence
import QueryGate.Proofs.Storage.FileNames

/-!
The order in which a directory is listed does not matter.

What is registered are the files whose names are those of queries, in ascending
order of these names, so another listing of the directory comes to the same records,
or fails in the same way. It fails when one of these files has no text. Of the files
that can be registered under one name, the one whose own name comes last is what a
cache has under it.
-/

namespace QueryGate.Storage

open Engine

theorem Node.text?_eq_ok_iff {node : Node} {text : String} :
    node.text? = .ok text ↔ node = .file (.ok (FileName.ofText text)) := by
  cases node with
  | directory entries => simp [Node.text?]
  | file content =>
      cases content with
      | error fault => simp [Node.text?, Except.bind]
      | ok bytes =>
          simp only [Node.text?, Except.bind, Node.file.injEq, Except.ok.injEq,
            ← decode?_eq_some_iff]
          cases decode? bytes <;> simp

theorem QueryFile.ofEntry?_eq_some_iff {entry : FileName × Node}
    {file : QueryFile} :
    QueryFile.ofEntry? entry = some file ↔ entry = (file.fileName, file.node) ∧
      file.node.isFile = true ∧ NamesQuery file.fileName file.name := by
  obtain ⟨fileName, node⟩ := entry
  obtain ⟨fileName', name, node'⟩ := file
  simp only [namesQuery_iff, QueryFile.ofEntry?, bind, Option.bind_eq_some_iff,
    Option.ite_none_right_eq_some, Option.some.injEq, QueryFile.mk.injEq,
    Prod.mk.injEq]
  constructor
  · rintro ⟨stem, hstem, text, htext, hfile, rfl, rfl, rfl⟩
    exact ⟨⟨rfl, rfl⟩, hfile, stem, hstem, htext⟩
  · rintro ⟨⟨rfl, rfl⟩, hfile, stem, hstem, htext⟩
    exact ⟨stem, hstem, name, htext, hfile, rfl, rfl, rfl⟩

/-- The query files of a directory. -/
def queryFiles (entries : List (FileName × Node)) : List QueryFile :=
  sortFiles (entries.filterMap QueryFile.ofEntry?)

section Files

variable {entries listed : List (FileName × Node)}

theorem mem_queryFiles {file : QueryFile} :
    file ∈ queryFiles entries ↔ (file.fileName, file.node) ∈ entries ∧
      file.node.isFile = true ∧ NamesQuery file.fileName file.name := by
  simp only [queryFiles, sortFiles, List.mem_mergeSort, List.mem_filterMap,
    QueryFile.ofEntry?_eq_some_iff]
  constructor
  · rintro ⟨entry, hentry, rfl, hfile⟩
    exact ⟨hentry, hfile⟩
  · rintro ⟨hentry, hfile⟩
    exact ⟨_, hentry, rfl, hfile⟩

theorem pairwise_sortFiles (files : List QueryFile) :
    (sortFiles files).Pairwise fun a b => a.fileName ≤ b.fileName := by
  have hsorted : (sortFiles files).Pairwise fun a b =>
      decide (a.fileName ≤ b.fileName) = true := by
    refine List.pairwise_mergeSort (fun a b c hab hbc => ?_) (fun a b => ?_) files
    · rw [decide_eq_true_eq] at *
      exact List.le_trans hab hbc
    · rw [Bool.or_eq_true, decide_eq_true_eq, decide_eq_true_eq]
      exact List.le_total _ _
  exact hsorted.imp fun h => of_decide_eq_true h

variable (hnodup : (entries.map Prod.fst).Nodup)

include hnodup

/-- A directory has one entry of a name, and the name of a file is the one of a
single query. -/
theorem eq_of_fileName_eq {first second : QueryFile}
    (hfirst : first ∈ queryFiles entries) (hsecond : second ∈ queryFiles entries)
    (h : first.fileName = second.fileName) : first = second := by
  obtain ⟨fileName, name, node⟩ := first
  obtain ⟨fileName', name', node'⟩ := second
  obtain rfl : fileName = fileName' := h
  obtain ⟨hentry, _, hname⟩ := mem_queryFiles.mp hfirst
  obtain ⟨hentry', _, hname'⟩ := mem_queryFiles.mp hsecond
  rw [namesQuery_iff] at hname hname'
  obtain rfl : name = name' := Option.some.inj (hname.symm.trans hname')
  have hsame := List.inj_on_of_nodup_map hnodup hentry hentry' rfl
  cases hsame
  rfl

theorem ascending_queryFiles :
    (queryFiles entries).Pairwise fun a b => a.fileName < b.fileName := by
  have hfiles : (entries.filterMap QueryFile.ofEntry?).Nodup := by
    refine (List.Nodup.of_map _ hnodup).filterMap fun entry entry' file h h' => ?_
    have hentry := (QueryFile.ofEntry?_eq_some_iff.mp h).1
    exact hentry.trans (QueryFile.ofEntry?_eq_some_iff.mp h').1.symm
  have hdistinct : (queryFiles entries).Nodup :=
    (List.mergeSort_perm _ _).nodup_iff.mpr hfiles
  refine ((pairwise_sortFiles _).and hdistinct).imp_of_mem fun ha hb hab => ?_
  exact Std.lt_of_le_of_ne hab.1 fun h => hab.2 (eq_of_fileName_eq hnodup ha hb h)

/-- Files of different names have one ascending order only. -/
theorem queryFiles_perm (h : listed.Perm entries) :
    queryFiles listed = queryFiles entries := by
  have hperm : (queryFiles listed).Perm (queryFiles entries) :=
    (List.mergeSort_perm _ _).trans
      ((h.filterMap _).trans (List.mergeSort_perm _ _).symm)
  refine hperm.eq_of_pairwise (fun a b ha hb hab hba => ?_) (pairwise_sortFiles _)
    (pairwise_sortFiles _)
  exact eq_of_fileName_eq hnodup (hperm.mem_iff.mp ha) hb (List.le_antisymm hab hba)

end Files

/-- A file of a query, with its text. -/
structure Source where
  fileName : FileName
  name : String
  text : String

/-- The record of a query is named by the file and holds its text. -/
def Source.record (source : Source) : AllowRecord :=
  ⟨source.name, "", source.text, ""⟩

/-- A directory lists the file of a query. -/
structure Source.In (source : Source)
    (entries : List (FileName × Node)) : Prop where
  listed : (source.fileName, .file (.ok (FileName.ofText source.text))) ∈ entries
  named : NamesQuery source.fileName source.name

/-- Every file of a query can be read and is UTF-8. -/
def Readable (entries : List (FileName × Node)) : Prop :=
  ∀ fileName name content, (fileName, .file content) ∈ entries →
    NamesQuery fileName name →
    ∃ text, content = .ok (FileName.ofText text)

/-- The source that is in a file. -/
def QueryFile.source? (file : QueryFile) : Option Source :=
  file.node.text?.toOption.map fun text => ⟨file.fileName, file.name, text⟩

theorem QueryFile.source?_eq_some_iff {file : QueryFile} {source : Source} :
    file.source? = some source ↔
      file = ⟨source.fileName, source.name,
        .file (.ok (FileName.ofText source.text))⟩ := by
  obtain ⟨fileName, name, node⟩ := file
  obtain ⟨fileName', name', text⟩ := source
  simp only [QueryFile.source?, QueryFile.mk.injEq, ← Node.text?_eq_ok_iff]
  cases node.text? <;> simp [Except.toOption]

/-- The sources of the queries in a directory. -/
def sourcesOf (entries : List (FileName × Node)) : List Source :=
  (queryFiles entries).filterMap QueryFile.source?

section Sources

variable {entries : List (FileName × Node)} {source : Source}

theorem mem_sourcesOf : source ∈ sourcesOf entries ↔ source.In entries := by
  simp only [sourcesOf, List.mem_filterMap, QueryFile.source?_eq_some_iff,
    exists_eq_right, mem_queryFiles]
  exact ⟨fun ⟨hlisted, _, hnamed⟩ => ⟨hlisted, hnamed⟩,
    fun h => ⟨h.listed, rfl, h.named⟩⟩

theorem ascending_sourcesOf (hnodup : (entries.map Prod.fst).Nodup) :
    (sourcesOf entries).Pairwise fun a b => a.fileName < b.fileName := by
  refine (ascending_queryFiles hnodup).filterMap _ fun file other h source hfile
    source' hother => ?_
  rw [QueryFile.source?_eq_some_iff.mp hfile,
    QueryFile.source?_eq_some_iff.mp hother] at h
  exact h

theorem exists_text_of_readable (hreadable : Readable entries) {file : QueryFile}
    (hfile : file ∈ queryFiles entries) : ∃ text, file.node.text? = .ok text := by
  obtain ⟨fileName, name, node⟩ := file
  obtain ⟨hentry, hisFile, hnamed⟩ := mem_queryFiles.mp hfile
  cases node with
  | directory entries => cases hisFile
  | file content =>
      obtain ⟨text, rfl⟩ := hreadable fileName name content hentry hnamed
      exact ⟨text, Node.text?_eq_ok_iff.mpr rfl⟩

/-- Where all files have a text, reading one after the other comes to their
records. -/
theorem mapM_record_of_texts {files : List QueryFile}
    (h : ∀ file ∈ files, ∃ text, file.node.text? = .ok text) :
    files.mapM QueryFile.record = .ok
      ((files.filterMap QueryFile.source?).map Source.record) := by
  rw [mapM_eq_ok_iff]
  induction files with
  | nil => exact .nil
  | cons file files ih =>
      obtain ⟨⟨text, htext⟩, hfiles⟩ := List.forall_mem_cons.mp h
      have hsource : file.source? = some ⟨file.fileName, file.name, text⟩ := by
        simp [QueryFile.source?, htext, Except.toOption]
      rw [List.filterMap_cons_some hsource, List.map_cons]
      exact .cons (by simp [QueryFile.record, htext, Except.map, Source.record])
        (ih hfiles)

theorem recordsOf_perm {listed : List (FileName × Node)}
    (hnodup : (entries.map Prod.fst).Nodup) (h : listed.Perm entries) :
    recordsOf listed = recordsOf entries :=
  congrArg (List.mapM QueryFile.record) (queryFiles_perm hnodup h)

theorem recordsOf_of_readable (h : Readable entries) :
    recordsOf entries = .ok ((sourcesOf entries).map Source.record) :=
  mapM_record_of_texts fun _ hfile => exists_text_of_readable h hfile

theorem recordsOf_of_not_readable (h : ¬Readable entries) :
    ∃ fault, recordsOf entries = .error fault := by
  cases hrecords : recordsOf entries with
  | error fault => exact ⟨fault, rfl⟩
  | ok records =>
      refine absurd (fun fileName name content hentry hnamed => ?_) h
      have hfile : (⟨fileName, name, .file content⟩ : QueryFile) ∈
          queryFiles entries :=
        mem_queryFiles.mpr ⟨hentry, rfl, hnamed⟩
      obtain ⟨record, hrecord⟩ := exists_ok_of_mapM hrecords hfile
      cases htext : Node.text? (.file content) with
      | error fault => simp [QueryFile.record, htext, Except.map] at hrecord
      | ok text =>
          cases Node.text?_eq_ok_iff.mp htext
          exact ⟨text, rfl⟩

end Sources

/-- What the directory of the queries lists. -/
def listing (place : Except IoFault Node) :
    Except IoFault (List (FileName × Node)) :=
  (follow place [queriesDirectory]).bind Node.entries?

/-- The cache for some roles of what a directory registers. -/
def cacheAt (place : Except IoFault Node) (roles : List String) :
    Except Error QueryCache :=
  (readRecords place).map fun records => .ofAllowList (.ofRecords records) roles

/-- Of the sources of a name that can be registered, it is the one in the file that
comes last. -/
structure Source.Greatest (source : Source) (name : String)
    (entries : List (FileName × Node)) : Prop where
  within : source.In entries
  named : source.name = name
  usable : source.record.Usable
  greatest : ∀ other : Source, other.In entries → other.name = name →
    other.record.Usable →
    other.fileName ≤ source.fileName

/-- What a cache has under a name for a role: the greatest source, if there is one
at all. -/
inductive Served (entries : List (FileName × Node)) (cache : QueryCache)
    (name role : String) :
    Prop
  | greatest (source : Source) (entry : AllowEntry)
      (hgreatest : source.Greatest name entries)
      (hentry : source.record.entry? = some entry)
      (hfind : cache.find? name role = some ⟨entry, role⟩)
  | nothing
      (hnone : ∀ source : Source, source.In entries → source.name = name →
        ¬source.record.Usable)
      (hfind : cache.find? name role = none)

/-- What a listing of distinct names comes to. -/
structure Registers (place : Except IoFault Node)
    (entries : List (FileName × Node)) : Prop where
  unordered : ∀ other listed, listing other = .ok listed → listed.Perm entries →
    readRecords other = readRecords place ∧ ∀ roles, cacheAt other roles =
      cacheAt place roles
  records : Readable entries → ∃ sources : List Source,
    sources.Pairwise (fun a b => a.fileName < b.fileName) ∧
      (∀ source, source ∈ sources ↔ source.In entries) ∧
      readRecords place = .ok (sources.map Source.record)
  served : ∀ roles cache name role, cacheAt place roles = .ok cache → role ∈ roles →
    Served entries cache name role

section Registered

variable {place : Except IoFault Node} {entries : List (FileName × Node)}

theorem readRecords_of_listing (h : listing place = .ok entries) :
    readRecords place = (recordsOf entries).mapError .io := by
  rw [listing] at h
  simp only [readRecords, h]
  cases recordsOf entries with
  | error fault => rfl
  | ok records => rfl

theorem readRecords_of_fault {fault : IoFault} (h : listing place = .error fault) :
    readRecords place = if fault = .notFound then .ok []
      else .error (.io fault) := by
  rw [listing] at h
  simp only [readRecords, h]
  cases fault <;> rfl

theorem Source.In.registeredName {source : Source} (h : source.In entries) :
    source.record.registeredName = source.name :=
  if_neg (by simpa [record] using h.named.ne_empty)

/-- The last record under a name is the one of the greatest source, as sources
ascend. -/
theorem greatest_of_lastUnder (hnodup : (entries.map Prod.fst).Nodup)
    {record : AllowRecord} {name : String}
    (h : record.LastUnder name ((sourcesOf entries).map Source.record)) :
    ∃ source : Source, source.Greatest name entries ∧ source.record = record := by
  obtain ⟨husable, hnamed, before, after, hsplit, hlater⟩ := h
  -- The records are split where the sources are.
  obtain ⟨front, rest, hsources, _, hrest⟩ := List.map_eq_append_iff.mp hsplit
  obtain ⟨source, back, rfl, rfl, rfl⟩ := List.map_eq_cons_iff.mp hrest
  have hascending := ascending_sourcesOf hnodup
  rw [hsources] at hascending
  have hwithin : source.In entries := mem_sourcesOf.mp (by simp [hsources])
  refine ⟨source, ⟨hwithin, hwithin.registeredName.symm.trans hnamed, husable, ?_⟩,
    rfl⟩
  intro other hother hname hotherUsable
  have hmem := mem_sourcesOf.mpr hother
  rw [hsources, List.mem_append, List.mem_cons] at hmem
  rcases hmem with hfront | rfl | hback
  · have hlt :=
      (List.pairwise_append.mp hascending).2.2 other hfront source
        List.mem_cons_self
    exact Std.le_of_lt hlt
  · exact List.le_refl _
  · exact absurd (hother.registeredName.trans hname)
      (hlater _ (List.mem_map_of_mem hback) hotherUsable)

theorem served_ofRecords (hnodup : (entries.map Prod.fst).Nodup)
    {roles : List String} {role : String} (hrole : role ∈ roles) (name : String) :
    Served entries
      (.ofAllowList (.ofRecords ((sourcesOf entries).map Source.record)) roles) name
      role := by
  have hfind := QueryCache.find?_ofAllowList
    (.ofRecords ((sourcesOf entries).map Source.record)) roles name role
  rw [if_pos hrole] at hfind
  rcases AllowRecord.exists_lastUnder_or
    ((sourcesOf entries).map Source.record) name with ⟨record, hlast⟩ | hnone
  · rw [hlast.lastNamed?_eq] at hfind
    obtain ⟨source, hgreatest, rfl⟩ := greatest_of_lastUnder hnodup hlast
    rcases source.record.entry?_cases with ⟨hunusable, _⟩ | ⟨entry, _, hentry, _⟩
    · exact absurd hgreatest.usable hunusable
    · rw [hentry] at hfind
      exact .greatest source entry hgreatest hentry hfind
  · rw [AllowRecord.lastNamed?_ofRecords_eq_none hnone] at hfind
    refine .nothing (fun source hsource hname husable => ?_) hfind
    exact hnone _ (List.mem_map_of_mem (mem_sourcesOf.mpr hsource)) husable
      (hsource.registeredName.trans hname)

theorem registers_of_listing (hlisting : listing place = .ok entries)
    (hnodup : (entries.map Prod.fst).Nodup) : Registers place entries where
  unordered other listed hother hperm := by
    have hsame : readRecords other = readRecords place := by
      rw [readRecords_of_listing hother, readRecords_of_listing hlisting,
        recordsOf_perm hnodup hperm]
    exact ⟨hsame, fun roles => by rw [cacheAt, cacheAt, hsame]⟩
  records hreadable := by
    refine ⟨sourcesOf entries, ascending_sourcesOf hnodup,
      fun _ => mem_sourcesOf, ?_⟩
    rw [readRecords_of_listing hlisting, recordsOf_of_readable hreadable]
    rfl
  served roles cache name role hcache hrole := by
    by_cases hreadable : Readable entries
    · rw [cacheAt, readRecords_of_listing hlisting,
        recordsOf_of_readable hreadable] at hcache
      cases hcache
      exact served_ofRecords hnodup hrole name
    · obtain ⟨fault, hfault⟩ := recordsOf_of_not_readable hreadable
      rw [cacheAt, readRecords_of_listing hlisting, hfault] at hcache
      cases hcache

theorem readRecords_fails_iff : (∃ cause, readRecords place = .error cause) ↔
    (∃ fault, listing place = .error fault ∧ fault ≠ .notFound) ∨
      ∃ entries, listing place = .ok entries ∧ ¬Readable entries := by
  cases hlisting : listing place with
  | error fault =>
      rw [readRecords_of_fault hlisting]
      by_cases habsent : fault = .notFound <;> simp [habsent]
  | ok entries =>
      rw [readRecords_of_listing hlisting]
      by_cases hreadable : Readable entries
      · simp [recordsOf_of_readable hreadable, hreadable, Except.mapError]
      · obtain ⟨fault, hfault⟩ := recordsOf_of_not_readable hreadable
        simp [hfault, hreadable, Except.mapError]

end Registered

/-- Whatever a place is like: where there is no directory of queries, nothing is
registered. Reading fails just when the directory cannot be listed, or when a query
file has no text. Where entries of distinct names are listed, their order does not
matter: the query files are registered in ascending order of their names. -/
theorem readRecords_unordered (place : Except IoFault Node) :
    (listing place = .error .notFound → readRecords place = .ok []) ∧
    ((∃ cause, readRecords place = .error cause) ↔
      (∃ fault, listing place = .error fault ∧ fault ≠ .notFound) ∨
        ∃ entries, listing place = .ok entries ∧ ¬Readable entries) ∧
    ∀ entries, listing place = .ok entries → (entries.map Prod.fst).Nodup →
      Registers place entries :=
  ⟨readRecords_of_fault, readRecords_fails_iff, fun _ => registers_of_listing⟩

namespace TwoUsers

def file (text : String) : Node :=
  .file (.ok (FileName.ofText text))

/-- Two files of one query, a hidden one, and three that register nothing. -/
def entries : List (FileName × Node) :=
  [(.ofText "users.graphql", file "query users { users { id } }"),
    (.ofText "old.gql", .directory []),
    (.ofText "users.gql", file "query users { users { name } }"),
    (.ofText ".gql", file "query nameless { posts { id } }"),
    (.ofText ".draft.gql", file "query draft { posts { id } }"),
    (.ofText "Posts.GQL", file "query posts { posts { id } }")]

def place (entries : List (FileName × Node)) : Except IoFault Node :=
  .ok (.directory [(.ofText "queries", .directory entries)])

/-- The records in ascending order of the file names. -/
def records : List AllowRecord :=
  [⟨".draft", "", "query draft { posts { id } }", ""⟩,
    ⟨"users", "", "query users { users { name } }", ""⟩,
    ⟨"users", "", "query users { users { id } }", ""⟩]

/-- Listed the other way round, the same is registered. The file whose name comes
last counts. -/
theorem readRecords_unordered_users :
    listing (place entries) = .ok entries ∧ (entries.map Prod.fst).Nodup ∧
      readRecords (place entries) = .ok records ∧
      readRecords (place entries.reverse) = .ok records ∧
      ((cacheAt (place entries.reverse) ["user"]).toOption.bind fun cache =>
        (cache.find? "users" "user").map fun r => r.entry.text) =
          some "query users { users { id } }" := by
  have hlisting : ∀ entries, listing (place entries) = .ok entries := fun _ => rfl
  have hnodup : (entries.map Prod.fst).Nodup := by decide +kernel
  -- The other way round the query files are in order already.
  have hascending : (entries.reverse.filterMap QueryFile.ofEntry?).Pairwise
      fun a b => decide (a.fileName ≤ b.fileName) = true := by decide +kernel
  have hreversed : readRecords (place entries.reverse) = .ok records := by
    rw [readRecords_of_listing (hlisting _), recordsOf, sortFiles,
      List.mergeSort_of_pairwise hascending]
    decide +kernel
  have hregisters :=
    (readRecords_unordered (place entries)).2.2 entries (hlisting _) hnodup
  obtain ⟨hsame, _⟩ :=
    hregisters.unordered (place entries.reverse) entries.reverse (hlisting _)
      entries.reverse_perm
  refine ⟨hlisting _, hnodup, hsame.symm.trans hreversed, hreversed, ?_⟩
  rw [cacheAt, hreversed]
  decide +kernel

end TwoUsers

end QueryGate.Storage
