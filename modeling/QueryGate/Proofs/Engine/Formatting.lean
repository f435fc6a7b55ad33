import QueryGate.Proofs.Document.Respacing
import QueryGate.Proofs.Engine.Verdict
import Mathlib.Logic.Relation

/-!
The form of a document makes no difference.

A restricted engine looks at two things of the document of a named request: the
letters and digits of its operation, and those of its fragments with their names, in
any order. Where they are the same, so is the answer, and so is what is kept. In a
written document they stay the same when blank characters come or go between tokens,
when the comments between the clauses change, and when the fragments change places.
-/

namespace QueryGate

namespace Document

open QueryGate.Text

namespace Item.Alike

variable {a b c : Item}

theorem refl (a : Item) : a.Alike a :=
  ⟨rfl, .refl _⟩

theorem symm (h : a.Alike b) : b.Alike a :=
  ⟨h.1.symm, h.2.symm⟩

theorem trans (hab : a.Alike b) (hbc : b.Alike c) : a.Alike c :=
  ⟨hab.1.trans hbc.1, hab.2.trans hbc.2⟩

end Item.Alike

/-- What counts of a clause when documents are compared. -/
def Clause.key (clause : Clause) : String × List Char :=
  (String.ofList clause.name, alphanumerics clause.text)

theorem Clause.Restates.key_eq {clause other : Clause} (h : clause.Restates other) :
    other.key = clause.key := by
  rw [key, key, h.name, ← alphanumerics_ink, h.ink, alphanumerics_ink]

theorem clausesOfKind_cons (kind : SectionKind) (clause : Clause)
    (parts : List Part) :
    clausesOfKind kind (.clause clause :: parts) =
      if clause.kind.sectionKind = kind then clause :: clausesOfKind kind parts
      else clausesOfKind kind parts := by
  simp [clausesOfKind, clausesOf, List.filter_cons]

theorem map_key_of_restates {parts others : List Part}
    (h : List.Forall₂ Part.Restates parts others) (kind : SectionKind) :
    (clausesOfKind kind others).map Clause.key =
      (clausesOfKind kind parts).map Clause.key := by
  induction h with
  | nil => rfl
  | @cons part other parts others hpart _ ih =>
      cases hpart with
      | comment body => exact ih
      | @clause clause other hclause =>
          rw [clausesOfKind_cons, clausesOfKind_cons, hclause.kind]
          split
          · rw [List.map_cons, List.map_cons, hclause.key_eq, ih]
          · exact ih

section Comparing

variable {parts others : List Part} {text other : String}

/-- The fragments of a written document count as its clauses do. -/
theorem fragments_of_written (h : Written parts text.toList) :
    ((Item.ofText text).fragments.map fun f =>
      (f.name, alphanumerics f.value.toList)) =
      (clausesOfKind .fragment parts).map Clause.key := by
  rw [Item.ofText, sections_of_written h]
  simp only [Item.ofSections, filter_sections, List.map_map]
  refine List.map_congr_left fun clause hclause => ?_
  obtain ⟨hin, hfragment⟩ := mem_clausesOfKind.mp hclause
  have htext : clause.toSection.text = clause.text :=
    Clause.toSection_text_of_ne (by rw [hfragment]; decide)
  simp only [Function.comp_apply, htext, Fragment.ofText, Clause.key,
    Clause.definedName_text (h.proper clause hin), String.toList_ofList]

/-- So does its operation, which is the last one where there are several. -/
theorem query_of_written (h : Written parts text.toList) :
    alphanumerics (Item.ofText text).query.toList =
      ((((clausesOfKind .operation parts).map Clause.key).getLast?).map
        Prod.snd).getD [] := by
  have hquery : (Item.ofText text).query.toList =
      lastText .operation ((clausesOf parts).map Clause.toSection) := by
    rw [Item.ofText, sections_of_written h]
    exact String.toList_ofList
  rw [hquery, lastText, filter_sections, List.getLast?_map, List.getLast?_map]
  cases hlast : (clausesOfKind .operation parts).getLast? with
  | none => rfl
  | some clause =>
      have hmem := mem_clausesOfKind.mp (List.mem_of_getLast? hlast)
      have htext : clause.toSection.text = clause.text :=
        Clause.toSection_text_of_ne (by rw [hmem.2]; decide)
      show alphanumerics clause.toSection.text = alphanumerics clause.text
      rw [htext]

/-- Documents are alike when their operations count the same, and so do their
fragments in any order. -/
theorem alike_of_written (h : Written parts text.toList)
    (hother : Written others other.toList)
    (hoperations : (clausesOfKind .operation others).map Clause.key =
      (clausesOfKind .operation parts).map Clause.key)
    (hfragments : ((clausesOfKind .fragment others).map Clause.key).Perm
      ((clausesOfKind .fragment parts).map Clause.key)) :
    (Item.ofText text).Alike (Item.ofText other) := by
  constructor
  · rw [query_of_written h, query_of_written hother, hoperations]
  · rw [fragments_of_written h, fragments_of_written hother]
    exact hfragments.symm

end Comparing

/-- A document takes another form. Blank characters come or go between tokens, which
stay as they are; the comments between the clauses change; or the fragments change
places, and the other clauses stay in their order. -/
inductive Reformats : List Char → List Char → Prop
  | spacing {s t : List Char} (htokens : Respaced s t) : Reformats s t
  | comments {parts others : List Part} {s t : List Char} (h : Written parts s)
      (hother : Written others t)
      (hclauses : clausesOf others = clausesOf parts) : Reformats s t
  | fragments {parts others : List Part} {s t : List Char} (h : Written parts s)
      (hother : Written others t)
      (hclauses : (clausesOf others).Perm (clausesOf parts))
      (hkept : (clausesOf others).filter (·.kind ≠ .fragment) =
        (clausesOf parts).filter (·.kind ≠ .fragment)) : Reformats s t

theorem clausesOfKind_operation (parts : List Part) :
    clausesOfKind .operation parts =
      ((clausesOf parts).filter (·.kind ≠ .fragment)).filter
        (·.kind.sectionKind = .operation) := by
  rw [clausesOfKind, List.filter_filter]
  refine List.filter_congr fun clause _ => ?_
  cases clause.kind <;> rfl

/-- A written document that takes another form is still a written document, alike to
the first. -/
theorem Reformats.alike {parts : List Part} {text other : String}
    (hwritten : Written parts text.toList)
    (h : Reformats text.toList other.toList) :
    (∃ others, Written others other.toList) ∧
    (Item.ofText text).Alike (Item.ofText other) := by
  cases h with
  | spacing htokens =>
      obtain ⟨others, hother, hrestates⟩ := hwritten.respaced htokens
      refine ⟨⟨others, hother⟩,
        alike_of_written hwritten hother (map_key_of_restates hrestates _) ?_⟩
      rw [map_key_of_restates hrestates]
  | comments h hother hclauses =>
      refine ⟨⟨_, hother⟩, alike_of_written h hother ?_ ?_⟩
      · rw [clausesOfKind, hclauses, clausesOfKind]
      · rw [clausesOfKind, hclauses, clausesOfKind]
  | fragments h hother hclauses hkept =>
      refine ⟨⟨_, hother⟩, alike_of_written h hother ?_ ?_⟩
      · rw [clausesOfKind_operation, hkept, ← clausesOfKind_operation]
      · exact (hclauses.filter _).map _

/-- However often a written document takes another form, it is alike to the
first. -/
theorem alike_of_reformats {parts : List Part} {text other : String}
    (hwritten : Written parts text.toList)
    (h : Relation.ReflTransGen Reformats text.toList other.toList) :
    (Item.ofText text).Alike (Item.ofText other) := by
  -- The document has to stay a written one, for the next form to be one of it.
  suffices hall : ∀ t, Relation.ReflTransGen Reformats text.toList t →
      (∃ others, Written others t) ∧
      (Item.ofText text).Alike (Item.ofText (String.ofList t)) by
    simpa using (hall other.toList h).2
  intro t ht
  induction ht with
  | refl =>
      rw [String.ofList_toList]
      exact ⟨⟨parts, hwritten⟩, .refl _⟩
  | @tail s t _ hlast ih =>
      obtain ⟨⟨others, hs⟩, halike⟩ := ih
      rw [← String.toList_ofList (l := s)] at hs hlast
      rw [← String.toList_ofList (l := t)] at hlast
      obtain ⟨hwrittenLast, halikeLast⟩ := hlast.alike hs
      rw [String.toList_ofList] at hwrittenLast
      exact ⟨hwrittenLast, halike.trans halikeLast⟩

end Document

namespace Engine

open Document

namespace Request

variable {request other : Request}

theorem lookupName_of_named (hnamed : request.name ≠ "") :
    request.lookupName = request.name := by
  rw [lookupName, if_neg (by simpa using hnamed)]

/-- Alike documents comply with the same registrations. -/
theorem complies_congr (halike : request.item.Alike other.item)
    (registered : Item) :
    other.complies registered = request.complies registered := by
  rw [Bool.eq_iff_iff, complies_iff, complies_iff]
  exact ⟨halike.trans, halike.symm.trans⟩

end Request

variable {State Plan : Type}

/-- What a gate lets a named request in for depends on its document only in what
counts of it. -/
theorem compile_congr_of_alike (backend : Backend State Plan) {snapshot : Snapshot}
    {cache : QueryCache} (hgate : snapshot.gate? = some cache)
    {request other : Request} (hname : other.name = request.name)
    (hnamed : request.name ≠ "") (hrole : other.role = request.role)
    (hvars : other.readVars = request.readVars)
    (halike : request.item.Alike other.item) (bench : Bench State Plan) :
    compile backend snapshot other bench =
      compile backend snapshot request bench := by
  have hlookup : other.lookupName = request.lookupName := by
    rw [Request.lookupName_of_named (hname ▸ hnamed),
      Request.lookupName_of_named hnamed, hname]
  have hmatch : cache.match? other = cache.match? request := by
    simp only [QueryCache.match?, hlookup, hrole, Request.complies_congr halike]
  have hadmit : ∀ vars, cache.admit snapshot.roles other vars =
      cache.admit snapshot.roles request vars := by
    intro vars
    simp only [hrole, hmatch, QueryCache.admit]
  simp only [compile, compileWith, hvars, hgate, hadmit]

/-- Named requests that differ in the form of their documents only get the same
answer from a restricted engine, and leave it in the same state, whatever was asked
before. -/
theorem formatting_irrelevant (backend : Backend State Plan) {readings : Readings}
    {generation : Nat} {snapshot : Snapshot}
    (hbuilt : readings.snapshot generation = .ok snapshot)
    (hrestricted : snapshot.restricted = true) (request other : Request)
    (hname : other.name = request.name) (hnamed : request.name ≠ "")
    (hrole : other.role = request.role) (hvars : other.readVars = request.readVars)
    (bench : Bench State Plan) :
    (request.item.Alike other.item →
        compile backend snapshot other bench =
          compile backend snapshot request bench) ∧
      ((∃ parts, Written parts request.query.toList) →
        Relation.ReflTransGen Reformats request.query.toList other.query.toList →
          compile backend snapshot other bench =
            compile backend snapshot request bench) := by
  obtain ⟨hgate, _⟩ := Readings.gate_of_restricted hbuilt hrestricted
  have hcongr : request.item.Alike other.item →
      compile backend snapshot other bench =
        compile backend snapshot request bench :=
    fun halike => compile_congr_of_alike backend hgate hname hnamed hrole hvars
      halike bench
  refine ⟨hcongr, ?_⟩
  rintro ⟨parts, hwritten⟩ hreformats
  exact hcongr (alike_of_reformats hwritten hreformats)

namespace SortedUsers

def operation : Clause :=
  ⟨.operation .query, [' '], "users".toList, [' '],
    " users(by: $sort) \x7b id \x7d ".toList⟩

/-- The document with its comment behind it instead of before it. -/
def moved : List Char :=
  operation.text ++ ' ' :: '#' :: " all of them".toList ++ []

/-- The same without the blank characters that are not needed. -/
def tight : String :=
  "query users\x7busers(by:$sort)\x7bid\x7d\x7d# all of them"

theorem proper_operation : operation.Proper := by
  constructor
  case header =>
    exact .mark (by decide) <|
      .word "users".toList (by decide) (by decide) (by decide) <|
      .mark (by decide) .nil
  case body =>
    exact .mark (by decide) <|
      .word "users".toList (by decide) (by decide) <| .openParen <|
      .word "by".toList (by decide) (by decide) <| .mark (by decide) <|
        .mark (by decide) <|
      .mark (by decide) <| .word "sort".toList (by decide) (by decide) <|
        .closeParen <|
      .mark (by decide) <| .openBrace <| .mark (by decide) <|
      .word "id".toList (by decide) (by decide) <| .mark (by decide) <|
        .closeBrace <|
      .mark (by decide) .nil
  case gap => exact List.all_eq_true.mp rfl
  case name => exact List.all_eq_true.mp rfl
  case unnamed => exact fun hname => by cases hname
  all_goals decide

theorem written_document :
    Written [.comment " @order sort: asc, desc".toList, .clause operation]
      document.toList := by
  have htext : document.toList =
      '#' :: " @order sort: asc, desc".toList ++
        '\n' :: (operation.text ++ []) := by
    decide +kernel
  rw [htext]
  exact .lineComment (by decide) (by simp) <| .blank (by decide) <|
    .clause proper_operation .nil

theorem written_moved :
    Written [.clause operation, .comment " all of them".toList] moved :=
  .clause proper_operation <| .blank (by decide) <|
    .lineComment (by decide) (by simp) .nil

theorem reformats_tight :
    Relation.ReflTransGen Reformats document.toList tight.toList :=
  .tail (.single (.comments written_document written_moved rfl)) (.spacing (by
    show tokens moved = tokens tight.toList
    decide +kernel))

/-- The users in descending order, asked for with the tight document. -/
def terse : Request :=
  { descending with query := tight }

theorem formatting_irrelevant_terse :
    readings.snapshot 0 = .ok snapshot ∧ snapshot.restricted = true ∧
      compile Backend.echo snapshot terse
          (benchAfter .echo snapshot earlier (.fresh ())) =
        compile Backend.echo snapshot descending
          (benchAfter .echo snapshot earlier (.fresh ())) := by
  have hnamed : descending.name ≠ "" := by decide
  obtain ⟨_, hforms⟩ :=
    formatting_irrelevant .echo snapshot_readings rfl descending terse rfl
    hnamed rfl rfl (benchAfter .echo snapshot earlier (.fresh ()))
  exact ⟨snapshot_readings, rfl, hforms ⟨_, written_document⟩ reformats_tight⟩

end SortedUsers

end Engine

end QueryGate
