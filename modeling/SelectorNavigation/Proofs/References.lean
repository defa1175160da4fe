import SelectorNavigation.Workspace.References
import Mathlib.Data.List.Induction

/-!
# What a search for references does

A search for references goes through the candidates one by one and keeps three logs:
the usages, the templates that were read, and the failures.  Each log comes out as a
list over the candidates at their first places, so the candidates do not influence each
other and a repeated candidate has no effect.
-/

namespace SelectorNavigation

namespace DocumentSource

def mustRead (source : DocumentSource) (uri : Uri) : Bool :=
  (source.opened.get? uri).isNone

def readError? (source : DocumentSource) (uri : Uri) : Option DocumentError :=
  match source.read uri with
  | .ok _ => none
  | .error error => some error

/-- The source that gives another outcome when one document is read. -/
def withRead (source : DocumentSource) (uri : Uri) (outcome : Except DocumentError Text) :
    DocumentSource where
  opened := source.opened
  read other := if other = uri then outcome else source.read other

end DocumentSource

namespace References

variable {source : DocumentSource} {matcher : Matcher}

/-- The members of a list at which no equal one precedes, in order. -/
def firstOccurrences (uris : List Uri) : List Uri :=
  (uris.zipIdx.filter fun member => !(uris.take member.2).contains member.1).map (·.1)

theorem firstOccurrences_append_singleton (uris : List Uri) (uri : Uri) :
    firstOccurrences (uris ++ [uri]) =
      firstOccurrences uris ++ if uri ∈ uris then [] else [uri] := by
  -- The members in front of the new one do not see it.
  have earlier : ∀ member ∈ uris.zipIdx,
      (!((uris ++ [uri]).take member.2).contains member.1) =
        !(uris.take member.2).contains member.1 := by
    intro member isMember
    have inside : member.2 < uris.length := by
      simpa using (List.mem_zipIdx' isMember).1
    rw [List.take_append_of_le_length (Nat.le_of_lt inside)]
  simp only [firstOccurrences, List.zipIdx_append, List.filter_append, List.map_append,
    List.filter_congr earlier]
  by_cases present : uri ∈ uris <;> simp [present]

theorem eraseDups_eq_firstOccurrences (uris : List Uri) :
    uris.eraseDups = firstOccurrences uris := by
  induction uris using List.reverseRecOn with
  | nil => rfl
  | append_singleton uris uri ih =>
      rw [List.eraseDups_append, ih, firstOccurrences_append_singleton]
      by_cases present : uri ∈ uris <;> simp [List.removeAll, List.eraseDups_cons, present]

/-- A copy of an earlier member may be left out. -/
theorem firstOccurrences_insert {before after : List Uri} {uri : Uri}
    (repeated : uri ∈ before) :
    firstOccurrences (before ++ uri :: after) = firstOccurrences (before ++ after) := by
  simp only [← eraseDups_eq_firstOccurrences, List.eraseDups_append, List.removeAll]
  rw [List.filter_cons_of_neg (by simpa using repeated)]

/-- The usages in a template: in its open text, or else in the text that is read. -/
def located (source : DocumentSource) (matcher : Matcher) (uri : Uri) : List Location :=
  match source.opened.get? uri, source.read uri with
  | some text, _ => (matcher.scan text).map fun span => ⟨uri, span⟩
  | none, .ok text => (matcher.scan text).map fun span => ⟨uri, span⟩
  | none, .error _ => []

/-- One template adds its usages, its read and its failure to the logs. -/
theorem scanNext_eq (scanned : Scan) (uri : Uri) :
    scanNext source matcher scanned uri =
      ⟨scanned.locations ++ located source matcher uri,
        scanned.reads ++ [uri].filter source.mustRead,
        scanned.failures ++ ([uri].filter source.mustRead).filterMap source.readError?⟩ := by
  cases opened : source.opened.get? uri with
  | some text =>
      simp [scanNext, DocumentSource.fetch, DocumentSource.mustRead, located, inDocument,
        opened]
  | none =>
      cases outcome : source.read uri with
      | ok text =>
          simp [scanNext, DocumentSource.fetch, DocumentSource.mustRead,
            DocumentSource.readError?, located, inDocument, opened, outcome]
      | error error =>
          simp [scanNext, DocumentSource.fetch, DocumentSource.mustRead,
            DocumentSource.readError?, located, opened, outcome]

/-- Scanning more templates adds to the logs what each of them contributes, in order. -/
theorem foldl_scanNext (scanned : Scan) (templates : List Uri) :
    templates.foldl (scanNext source matcher) scanned =
      ⟨scanned.locations ++ templates.flatMap (located source matcher),
        scanned.reads ++ templates.filter source.mustRead,
        scanned.failures ++
          (templates.filter source.mustRead).filterMap source.readError?⟩ := by
  induction templates generalizing scanned with
  | nil => simp
  | cons uri templates ih =>
      rw [List.foldl_cons, ih, scanNext_eq, ← List.singleton_append (l := templates),
        List.filter_append, List.filterMap_append]
      simp only [List.flatMap_append, List.flatMap_singleton, List.append_assoc]

theorem scan_eq (source : DocumentSource) (matcher : Matcher) (templates : List Uri) :
    scan source matcher templates =
      ⟨templates.flatMap (located source matcher),
        templates.filter source.mustRead,
        (templates.filter source.mustRead).filterMap source.readError?⟩ := by
  rw [scan, foldl_scanNext]
  simp [Scan.empty]

theorem uri_of_mem_located {uri : Uri} {location : Location}
    (member : location ∈ located source matcher uri) : location.uri = uri := by
  simp only [located] at member
  split at member
  · obtain ⟨span, -, rfl⟩ := List.mem_map.mp member
    rfl
  · obtain ⟨span, -, rfl⟩ := List.mem_map.mp member
    rfl
  · simp at member

theorem filter_located_withRead (uri : Uri) (outcome : Except DocumentError Text)
    (template : Uri) :
    (located (source.withRead uri outcome) matcher template).filter (·.uri ≠ uri) =
      (located source matcher template).filter (·.uri ≠ uri) := by
  by_cases same : template = uri
  · subst same
    have none_left : ∀ source : DocumentSource,
        (located source matcher template).filter (·.uri ≠ template) = [] := by
      intro source
      refine List.filter_eq_nil_iff.mpr fun location member => ?_
      simp [uri_of_mem_located member]
    rw [none_left, none_left]
  · simp [located, DocumentSource.withRead, same]

/-- Another outcome for one template changes neither what is read nor the usages of the
other templates. -/
theorem scan_withRead (uri : Uri) (outcome : Except DocumentError Text)
    (templates : List Uri) :
    (scan (source.withRead uri outcome) matcher templates).reads =
        (scan source matcher templates).reads ∧
      (scan (source.withRead uri outcome) matcher templates).locations.filter (·.uri ≠ uri) =
        (scan source matcher templates).locations.filter (·.uri ≠ uri) := by
  simp only [scan_eq]
  refine ⟨rfl, ?_⟩
  simp only [List.filter_flatMap, filter_located_withRead]

theorem find_eq_candidates {declaration : Text}
    (declared : Matcher.ofDeclaration? declaration = some matcher)
    (search : SearchQuery → List Uri) (source : DocumentSource) (settings : ExcludeSettings) :
    find search source settings declaration =
      ⟨[query settings], scan source matcher (candidates search settings)⟩ := by
  simp only [find, declared]
  rfl

theorem find_eq {declaration : Text} (declared : Matcher.ofDeclaration? declaration = some matcher)
    (search : SearchQuery → List Uri) (source : DocumentSource) (settings : ExcludeSettings) :
    find search source settings declaration =
      ⟨[query settings],
        scan source matcher (firstOccurrences (search (query settings)))⟩ := by
  rw [find_eq_candidates declared, candidates_eq, eraseDups_eq_firstOccurrences]

theorem find_eq_empty {declaration : Text} (undeclared : Matcher.ofDeclaration? declaration = none)
    (search : SearchQuery → List Uri) (source : DocumentSource) (settings : ExcludeSettings) :
    find search source settings declaration = ⟨[], ⟨[], [], []⟩⟩ := by
  simp only [find, undeclared, Scan.empty]

/-- A search for references puts no query, reads nothing and reports nothing unless a
selector is declared.  Otherwise it puts one query and scans the templates found, each
at its first place: the usages are those of the open text or of the text read, exactly
the templates that are not open are read, and exactly the failed reads are reported.
Hence one template has no influence on the usages of the others, and finding a template
again changes nothing. -/
theorem find_scans_each_template_once (search : SearchQuery → List Uri)
    (source : DocumentSource) (settings : ExcludeSettings) (declaration : Text) :
    let report := find search source settings declaration
    (Matcher.ofDeclaration? declaration = none → report = ⟨[], ⟨[], [], []⟩⟩) ∧
    (∀ matcher, Matcher.ofDeclaration? declaration = some matcher →
      let query : SearchQuery := ⟨"**/*.html".toList, settings.patterns⟩
      let templates := firstOccurrences (search query)
      report.queries = [query] ∧
        report.scan.locations = templates.flatMap (located source matcher) ∧
        report.scan.reads = templates.filter source.mustRead ∧
        report.scan.failures.map DocumentError.message =
          (report.scan.reads.filterMap source.readError?).map DocumentError.message) ∧
    (∀ uri outcome,
      let changed := find search (source.withRead uri outcome) settings declaration
      changed.scan.reads = report.scan.reads ∧
        changed.scan.locations.filter (·.uri ≠ uri) =
          report.scan.locations.filter (·.uri ≠ uri)) ∧
    (∀ before uri after, uri ∈ before →
      find (fun _ => before ++ uri :: after) source settings declaration =
        find (fun _ => before ++ after) source settings declaration) := by
  cases declared : Matcher.ofDeclaration? declaration with
  | none =>
      simp only [find_eq_empty declared]
      simp
  | some matcher =>
      simp only [find_eq declared]
      refine ⟨nofun, ?_, fun uri outcome => scan_withRead uri outcome _, ?_⟩
      · rintro _ ⟨⟩
        rw [scan_eq]
        exact ⟨rfl, rfl, rfl, rfl⟩
      · intro before uri after repeated
        rw [firstOccurrences_insert repeated]

end References

end SelectorNavigation
