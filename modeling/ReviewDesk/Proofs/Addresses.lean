import Mathlib.Data.List.TakeWhile
import ReviewDesk.Proofs.Inquiries
import ReviewDesk.Proofs.Percent
import ReviewDesk.Service.Route

/-!
# Addresses of repositories

An endpoint is read the way an address is: what follows a `#` is cut off, what follows a `?` is the
query, and the path is split at its slashes, with dot segments taken out. What was written from
segments and a query is read back unless a segment has one of the two signs or is made of dots.
Names of owners and repositories go into an endpoint as they are, so the main statement says of
which ones that is no harm.
-/
namespace ReviewDesk

namespace Http

open Service (segments)

/-! ## Segments in percent form -/

/-- Segments make up their path again. -/
theorem intercalate_segments (path : String) :
    ['/'].intercalate ((segments path).map String.toList) = path.toList := by
  have hpieces : (segments path).map String.toList = path.toList.splitOn '/' := by
    simp [segments, Function.comp_def]
  rw [hpieces, List.intercalate_splitOn]

theorem segments_intercalate {parts : List String} (hparts : ∀ s ∈ parts, '/' ∉ s.toList)
    (hne : parts ≠ []) :
    segments (.ofList (['/'].intercalate (parts.map String.toList))) = parts := by
  rw [segments, String.toList_ofList, List.splitOn_intercalate]
  · simp
  · simpa using hparts
  · simpa using hne

theorem intercalate_cons (piece : List Char) (rest : List (List Char)) :
    ['/'].intercalate (piece :: rest) = piece ++ rest.flatMap ('/' :: ·) := by
  induction rest generalizing piece with
  | nil => simp
  | cons next rest ih =>
    rw [List.intercalate_cons_cons, ih, List.flatMap_cons]
    simp

theorem flatMap_segments (path : String) :
    (segments path).flatMap (fun s => '/' :: s.toList) = '/' :: path.toList := by
  have hroot := intercalate_cons [] ((segments path).map String.toList)
  rw [List.flatMap_map, List.nil_append] at hroot
  rw [← hroot, List.intercalate_cons_of_ne_nil, intercalate_segments]
  · rfl
  · simp [segments]

theorem segments_injective : Function.Injective segments := by
  intro s t h
  apply String.toList_inj.mp
  rw [← intercalate_segments, h, intercalate_segments]

theorem splitOn_append_of_not_mem {xs : List Char} (h : '/' ∉ xs) (ys : List Char) :
    (xs ++ ys).splitOn '/' = (ys.splitOn '/').modifyHead (xs ++ ·) := by
  induction xs with
  | nil => exact (congrFun List.modifyHead_id (ys.splitOn '/')).symm
  | cons x xs ih =>
    obtain ⟨hx, hxs⟩ := not_or.mp (List.mem_cons.not.mp h)
    have hne : (x == '/') = false := beq_false_of_ne fun he => hx he.symm
    rw [List.cons_append, List.splitOn_cons_eq_if_modifyHead, if_neg (by simp [hne]), ih hxs,
      List.modifyHead_modifyHead]
    rfl

theorem slash_not_mem_encodeChar (c : Char) : '/' ∉ encodeChar (fun _ => false) c := by
  intro h
  rcases mem_encodeChar h with h | h | h
  · exact absurd h (by decide)
  · exact absurd h (by decide)
  · exact Bool.false_ne_true h.1

theorem splitOn_encode (cs : List Char) :
    (cs.flatMap (encodeChar (· == '/'))).splitOn '/' =
      (cs.splitOn '/').map (·.flatMap (encodeChar fun _ => false)) := by
  induction cs with
  | nil => rfl
  | cons c cs ih =>
    rw [List.flatMap_cons, List.splitOn_cons_eq_if_modifyHead]
    by_cases hc : c = '/'
    · subst hc
      rw [if_pos (beq_self_eq_true _), List.map_cons, ← ih]
      exact List.splitOn_append_cons_self [] _
    · have hsame : encodeChar (· == '/') c = encodeChar (fun _ => false) c := by
        simp [encodeChar, hc]
      rw [if_neg (by simpa using hc), hsame, splitOn_append_of_not_mem (slash_not_mem_encodeChar c),
        ih]
      cases cs.splitOn '/' with
      | nil => rfl
      | cons first rest => simp

/-- Each segment of a path has the percent form that it has by itself. -/
theorem segments_encodePath (path : String) :
    segments (encodePath path) = (segments path).map encodeSegment := by
  have hchars : (encodePath path).toList.splitOn '/' =
      (path.toList.splitOn '/').map (·.flatMap (encodeChar fun _ => false)) := by
    rw [encodePath, toList_percentEncode, splitOn_encode]
  rw [segments, hchars, segments, List.map_map, List.map_map]
  refine List.map_congr_left fun cs _ => ?_
  rw [Function.comp_apply, Function.comp_apply, encodeSegment, percentEncode,
    String.toList_ofList]
  rfl

/-! ## Reading an endpoint -/

theorem mem_intercalate {c : Char} (hc : c ≠ '/') {pieces : List (List Char)} :
    c ∈ ['/'].intercalate pieces ↔ ∃ piece ∈ pieces, c ∈ piece := by
  induction pieces with
  | nil => simp
  | cons piece rest ih =>
    cases rest with
    | nil => simp
    | cons next rest =>
      rw [List.intercalate_cons_cons, List.mem_append, List.mem_append, ih, List.mem_singleton]
      simp [hc]

theorem mem_of_mem_segments {path s : String} (hs : s ∈ segments path) {c : Char} (hc : c ≠ '/')
    (h : c ∈ s.toList) : c ∈ path.toList := by
  rw [← intercalate_segments]
  exact (mem_intercalate hc).mpr ⟨s.toList, List.mem_map_of_mem hs, h⟩

/-- What an endpoint leads to. The first segment is that in front of the first slash. -/
structure Target where
  segments : List String
  query : Option String := none
  deriving Repr, DecidableEq

/-- A segment that stands for itself. -/
def Clear (s : String) : Prop := '?' ∉ s.toList ∧ '#' ∉ s.toList ∧ s ≠ "." ∧ s ≠ ".."

instance : DecidablePred Clear := fun _ => inferInstanceAs (Decidable (_ ∧ _))

theorem mem_removeDots {out rest : List String} {s : String} (h : s ∈ removeDots out rest) :
    s ∈ out ∨ s ∈ rest ∧ s ≠ "." ∧ s ≠ ".." := by
  fun_induction removeDots out rest with
  | case1 out => exact .inl (List.mem_reverse.mp h)
  | case2 out rest ih => exact (ih h).imp_right (And.imp_left (List.mem_cons_of_mem _))
  | case3 rest ih => exact (ih h).imp_right (And.imp_left (List.mem_cons_of_mem _))
  | case4 rest ih => exact (ih h).imp_right (And.imp_left (List.mem_cons_of_mem _))
  | case5 rest first before hroot ih =>
    exact (ih h).imp (List.mem_cons_of_mem _) (And.imp_left (List.mem_cons_of_mem _))
  | case6 out first rest hone htwo ih =>
    rcases ih h with hout | ⟨hrest, hdots⟩
    · rcases List.mem_cons.mp hout with rfl | hout
      · exact .inr ⟨List.mem_cons_self, hone, htwo⟩
      · exact .inl hout
    · exact .inr ⟨List.mem_cons_of_mem _ hrest, hdots⟩

theorem removeDots_eq (out : List String) {rest : List String}
    (h : ∀ s ∈ rest, s ≠ "." ∧ s ≠ "..") : removeDots out rest = out.reverse ++ rest := by
  induction rest generalizing out with
  | nil => simp [removeDots]
  | cons s rest ih =>
    obtain ⟨⟨hone, htwo⟩, hrest⟩ := List.forall_mem_cons.mp h
    rw [removeDots, ih (s :: out) hrest, List.reverse_cons, List.append_assoc]
    · rfl
    · exact hone
    · exact htwo

namespace Target

def read (endpoint : String) : Target :=
  let cs := endpoint.toList.takeWhile (· != '#')
  { segments := removeDots [] (Service.segments (.ofList (cs.takeWhile (· != '?'))))
    query := match cs.dropWhile (· != '?') with
      | [] => none
      | _ :: query => some (.ofList query) }

/-- A query with its sign. -/
def queryChars : Option String → List Char
  | none => []
  | some query => '?' :: query.toList

def write (t : Target) : String :=
  .ofList (['/'].intercalate (t.segments.map String.toList) ++ queryChars t.query)

/-- A segment that was read has no sign that means anything. -/
theorem clear_of_mem_read {endpoint s : String} (h : s ∈ (read endpoint).segments) : Clear s := by
  obtain ⟨hs, hdots⟩ := (mem_removeDots h).resolve_left nofun
  refine ⟨fun hc => ?_, fun hc => ?_, hdots⟩
  · have hpath := mem_of_mem_segments hs (by decide) hc
    rw [String.toList_ofList] at hpath
    exact absurd (List.mem_takeWhile_imp hpath) (by decide)
  · have hpath := mem_of_mem_segments hs (by decide) hc
    rw [String.toList_ofList] at hpath
    have hfragment := (List.takeWhile_prefix _).subset hpath
    exact absurd (List.mem_takeWhile_imp hfragment) (by decide)

theorem read_ofList {path : List Char} (hquestion : '?' ∉ path) (hhash : '#' ∉ path)
    {query : Option String} (hquery : ∀ q ∈ query, '#' ∉ q.toList) :
    read (.ofList (path ++ queryChars query)) =
      ⟨removeDots [] (Service.segments (.ofList path)), query⟩ := by
  have hfragment : (path ++ queryChars query).takeWhile (· != '#') = path ++ queryChars query := by
    refine List.takeWhile_eq_self_iff.mpr fun c hc => bne_iff_ne.mpr ?_
    rcases List.mem_append.mp hc with hc | hc
    · rintro rfl
      exact hhash hc
    · cases query with
      | none => cases hc
      | some q =>
        rcases List.mem_cons.mp hc with rfl | hc
        · decide
        · rintro rfl
          exact hquery q rfl hc
  have hplain : ∀ c ∈ path, (c != '?') = true := by
    intro c hc
    refine bne_iff_ne.mpr ?_
    rintro rfl
    exact hquestion hc
  rw [read, String.toList_ofList, hfragment]
  cases query with
  | none =>
    rw [queryChars, List.append_nil, List.takeWhile_eq_self_iff.mpr hplain,
      List.dropWhile_eq_nil_iff.mpr hplain]
  | some q =>
    rw [queryChars, List.takeWhile_append_of_pos hplain, List.dropWhile_append_of_pos hplain]
    simp

/-- What was written is read back just if each segment stands for itself. -/
theorem read_write {t : Target} (hsegments : ∀ s ∈ t.segments, '/' ∉ s.toList)
    (hne : t.segments ≠ []) (hquery : ∀ q ∈ t.query, '#' ∉ q.toList) :
    read t.write = t ↔ ∀ s ∈ t.segments, Clear s := by
  constructor
  · -- Nothing that is read has such a segment, so one that was written would be missing.
    intro h s hs
    rw [← h] at hs
    exact clear_of_mem_read hs
  · intro hclear
    have hfree {c : Char} (hc : c ≠ '/') (hs : ∀ s ∈ t.segments, c ∉ s.toList) :
        c ∉ ['/'].intercalate (t.segments.map String.toList) := by
      intro h
      obtain ⟨piece, hpiece, h⟩ := (mem_intercalate hc).mp h
      obtain ⟨s, hmem, rfl⟩ := List.mem_map.mp hpiece
      exact hs s hmem h
    have hquestion := hfree (by decide) fun s hs => (hclear s hs).1
    have hhash := hfree (by decide) fun s hs => (hclear s hs).2.1
    rw [write, read_ofList hquestion hhash hquery, segments_intercalate hsegments hne,
      removeDots_eq [] fun s hs => (hclear s hs).2.2]
    rfl

end Target

end Http

namespace GitHub

open Http (Clear Target encodeSegment encodePath)
open Service (segments)

/-! ## What a repository holds -/

/-- What is asked for of a repository. -/
inductive Item where
  | whole
  | tree (ref : String)
  | file (path : String) (ref : Option String)
  deriving Repr, DecidableEq

namespace Item

/-- What an item adds to the address of its repository. -/
def suffix : Item → List String
  | whole => []
  | tree ref => ["git", "trees", encodeSegment ref]
  | file path _ => "contents" :: segments (encodePath path)

def query : Item → Option String
  | whole => none
  | tree _ => some "recursive=1"
  | file _ ref => ref.map ("ref=" ++ encodeSegment ·)

def Named : Item → Prop
  | whole => True
  | tree ref => ref ≠ ""
  | file path _ => path ≠ ""

/-- No segment of the item is made of dots. -/
def Dotless : Item → Prop
  | whole => True
  | tree ref => ref ≠ "." ∧ ref ≠ ".."
  | file path _ => ∀ s ∈ segments path, s ≠ "." ∧ s ≠ ".."

instance : DecidablePred Named
  | whole => inferInstanceAs (Decidable True)
  | tree _ => inferInstanceAs (Decidable (_ ≠ _))
  | file _ _ => inferInstanceAs (Decidable (_ ≠ _))

instance : DecidablePred Dotless
  | whole => inferInstanceAs (Decidable True)
  | tree _ => inferInstanceAs (Decidable (_ ∧ _))
  | file path _ => inferInstanceAs (Decidable (∀ s ∈ segments path, _))

end Item

/-- A repository, or something in it. -/
structure Resource where
  owner : String
  repo : String
  item : Item
  deriving Repr, DecidableEq

namespace Resource

/-- A name that is taken for that of an owner or of a repository. -/
def IsName (name : String) : Prop := name ≠ "" ∧ '/' ∉ name.toList

/-- Nothing is left unnamed. -/
def Named (x : Resource) : Prop := IsName x.owner ∧ IsName x.repo ∧ x.item.Named

/-- Everything stands for itself. -/
def Plain (x : Resource) : Prop := Clear x.owner ∧ Clear x.repo ∧ x.item.Dotless

def target (x : Resource) : Target where
  segments := ["", "repos", x.owner, x.repo] ++ x.item.suffix
  query := x.item.query

instance : DecidablePred IsName := fun _ => inferInstanceAs (Decidable (_ ∧ _))

instance : DecidablePred Named := fun _ => inferInstanceAs (Decidable (_ ∧ _))

instance : DecidablePred Plain := fun _ => inferInstanceAs (Decidable (_ ∧ _))

end Resource

/-- What an inquiry is after, if that is in a repository. Blanks around a name and slashes in front
of a path do not count, and an empty reference is none. -/
def Inquiry.resource? : Inquiry → Option Resource
  | repository owner repo => some ⟨Text.trim owner, Text.trim repo, .whole⟩
  | tree owner repo ref => some ⟨Text.trim owner, Text.trim repo, .tree ref⟩
  | fileText owner repo path ref => some ⟨Text.trim owner, Text.trim repo,
      .file (.ofList (path.toList.dropWhile (· == '/'))) (ref.filter (!·.isEmpty))⟩
  | _ => none

/-! ## Endpoints -/

theorem encodeSegment_eq_iff {s dots : String} (hdots : encodeSegment dots = dots) :
    encodeSegment s = dots ↔ s = dots := by
  rw [← hdots, Http.encodeSegment_injective.eq_iff, hdots]

theorem clear_encodeSegment (s : String) : Clear (encodeSegment s) ↔ s ≠ "." ∧ s ≠ ".." := by
  have hone : encodeSegment "." = "." := by decide +kernel
  have htwo : encodeSegment ".." = ".." := by decide +kernel
  have hquestion : '?' ∉ (encodeSegment s).toList :=
    Http.not_mem_percentEncode (by decide) (by decide) rfl s
  have hhash : '#' ∉ (encodeSegment s).toList :=
    Http.not_mem_percentEncode (by decide) (by decide) rfl s
  rw [Clear, Ne, Ne, encodeSegment_eq_iff hone, encodeSegment_eq_iff htwo]
  tauto

theorem Item.clear_suffix (item : Item) : (∀ s ∈ item.suffix, Clear s) ↔ item.Dotless := by
  cases item with
  | whole => simp [suffix, Dotless]
  | tree ref =>
    have hgit : Clear "git" := by decide
    have htrees : Clear "trees" := by decide
    simp only [suffix, Dotless, List.forall_mem_cons, hgit, htrees, clear_encodeSegment, true_and,
      List.not_mem_nil, false_imp_iff, implies_true, and_true]
  | file path ref =>
    have hcontents : Clear "contents" := by decide
    simp only [suffix, Dotless, List.forall_mem_cons, hcontents, Http.segments_encodePath, true_and,
      List.forall_mem_map, clear_encodeSegment]

theorem Resource.clear_target (x : Resource) : (∀ s ∈ x.target.segments, Clear s) ↔ x.Plain := by
  have hroot : Clear "" := by decide
  have hrepos : Clear "repos" := by decide
  rw [target, Plain, ← x.item.clear_suffix]
  simp only [List.cons_append, List.nil_append, List.forall_mem_cons, hroot, hrepos, true_and]

theorem Item.suffix_query_injective {item item' : Item} (hsuffix : item.suffix = item'.suffix)
    (hquery : item.query = item'.query) : item = item' := by
  have hne (path : String) : ("contents" :: segments (encodePath path)).head? ≠ some "git" := by
    simp
  cases item with
  | whole =>
    cases item' with
    | whole => rfl
    | tree ref => cases hsuffix
    | file path ref => cases hsuffix
  | tree ref =>
    cases item' with
    | whole => cases hsuffix
    | tree ref' =>
      simp only [suffix, List.cons.injEq, true_and, and_true] at hsuffix
      rw [Http.encodeSegment_injective hsuffix]
    | file path ref' => exact absurd (congrArg List.head? hsuffix).symm (hne path)
  | file path ref =>
    cases item' with
    | whole => cases hsuffix
    | tree ref' => exact absurd (congrArg List.head? hsuffix) (hne path)
    | file path' ref' =>
      -- The path is in the segments, the reference in the query.
      simp only [suffix, List.cons.injEq, true_and] at hsuffix
      have hpath := Http.encodePath_injective (Http.segments_injective hsuffix)
      have href : ref = ref' := by
        refine Option.map_injective (fun r r' h => ?_) hquery
        exact Http.encodeSegment_injective (String.append_right_inj _ |>.mp h)
      rw [hpath, href]

theorem Resource.target_injective : Function.Injective target := by
  intro x x' h
  obtain ⟨owner, repo, item⟩ := x
  obtain ⟨owner', repo', item'⟩ := x'
  simp only [target, List.cons_append, List.nil_append, Target.mk.injEq, List.cons.injEq,
    true_and] at h
  obtain ⟨⟨rfl, rfl, hsuffix⟩, hquery⟩ := h
  rw [Item.suffix_query_injective hsuffix hquery]

theorem checkSegment_eq (value : String) :
    Client.checkSegment value = if Resource.IsName (Text.trim value) then .ok (Text.trim value)
      else .error (.input (.segment value)) := by
  rw [Client.checkSegment]
  by_cases h : Resource.IsName (Text.trim value)
  · rw [if_pos h, if_neg]
    simpa [Resource.IsName] using h
  · rw [if_neg h, if_pos]
    simp only [Resource.IsName, not_and_or, not_not] at h
    simpa using h

theorem repositoryEndpoint_eq {owner repo : String} (howner : Resource.IsName (Text.trim owner))
    (hrepo : Resource.IsName (Text.trim repo)) : Client.repositoryEndpoint owner repo =
      .ok ("/repos/" ++ Text.trim owner ++ "/" ++ Text.trim repo) := by
  rw [Client.repositoryEndpoint, checkSegment_eq, checkSegment_eq, if_pos howner, if_pos hrepo]
  rfl

theorem treeEndpoint_eq {owner repo ref address : String}
    (h : Client.repositoryEndpoint owner repo = .ok address) (href : ref ≠ "") :
    Client.treeEndpoint owner repo ref =
      .ok (address ++ "/git/trees/" ++ encodeSegment ref ++ "?recursive=1") := by
  rw [Client.treeEndpoint, if_neg (String.isEmpty_iff.not.mpr href), h]
  rfl

theorem contentsEndpoint_eq {owner repo path address : String}
    (h : Client.repositoryEndpoint owner repo = .ok address) (ref : Option String)
    (hpath : String.ofList (path.toList.dropWhile (· == '/')) ≠ "") :
    Client.contentsEndpoint owner repo path ref =
      .ok (address ++ "/contents/" ++ encodePath (.ofList (path.toList.dropWhile (· == '/'))) ++
        .ofList (Target.queryChars
          ((ref.filter (!·.isEmpty)).map ("ref=" ++ encodeSegment ·)))) := by
  rw [Client.contentsEndpoint, h]
  simp only [if_neg (String.isEmpty_iff.not.mpr hpath)]
  cases ref.filter (!·.isEmpty) with
  | none =>
    rw [Option.map_none, Target.queryChars, String.ofList_nil, String.append_empty]
    rfl
  | some r =>
    have hquery : String.ofList ('?' :: ("ref=" ++ encodeSegment r).toList) =
        "?ref=" ++ encodeSegment r := by
      rw [← String.toList_inj]
      simp
    rw [Option.map_some, Target.queryChars, hquery, ← String.append_assoc]
    rfl

theorem Resource.toList_write_target (owner repo : String) (item : Item) :
    (⟨owner, repo, item⟩ : Resource).target.write.toList =
      ("/repos/" ++ owner ++ "/" ++ repo).toList ++
        (item.suffix.flatMap fun s => '/' :: s.toList) ++ Target.queryChars item.query := by
  rw [target, Target.write, List.cons_append, List.map_cons, Http.intercalate_cons,
    List.flatMap_map]
  simp

/-- An inquiry that leaves nothing unnamed has the endpoint that is written for its resource. -/
theorem Inquiry.endpoint_eq {q : Inquiry} {x : Resource} (h : q.resource? = some x)
    (hnamed : x.Named) : q.endpoint = .ok x.target.write := by
  cases q with
  | exchangeCode => cases h
  | profile => cases h
  | repositories => cases h
  | repository owner repo =>
    obtain rfl := Option.some.inj h
    rw [endpoint, repositoryEndpoint_eq hnamed.1 hnamed.2.1]
    refine congrArg _ (String.toList_inj.mp ?_)
    simp [Resource.toList_write_target, Item.suffix, Item.query, Target.queryChars]
  | tree owner repo ref =>
    obtain rfl := Option.some.inj h
    obtain ⟨howner, hrepo, href⟩ := hnamed
    rw [endpoint, treeEndpoint_eq (repositoryEndpoint_eq howner hrepo) href]
    refine congrArg _ (String.toList_inj.mp ?_)
    simp [Resource.toList_write_target, Item.suffix, Item.query, Target.queryChars]
  | fileText owner repo path ref =>
    obtain rfl := Option.some.inj h
    obtain ⟨howner, hrepo, hpath⟩ := hnamed
    rw [endpoint, contentsEndpoint_eq (repositoryEndpoint_eq howner hrepo) ref hpath]
    refine congrArg _ (String.toList_inj.mp ?_)
    simp [Resource.toList_write_target, Item.suffix, Item.query, Http.flatMap_segments]

theorem names_of_repositoryEndpoint {owner repo address : String}
    (h : Client.repositoryEndpoint owner repo = .ok address) :
    Resource.IsName (Text.trim owner) ∧ Resource.IsName (Text.trim repo) := by
  rw [Client.repositoryEndpoint, checkSegment_eq, checkSegment_eq] at h
  by_cases howner : Resource.IsName (Text.trim owner)
  · refine ⟨howner, ?_⟩
    by_contra hrepo
    rw [if_pos howner, if_neg hrepo] at h
    cases h
  · rw [if_neg howner] at h
    cases h

/-- An inquiry with an endpoint leaves nothing unnamed. -/
theorem Inquiry.named_of_endpoint {q : Inquiry} {x : Resource} (h : q.resource? = some x)
    {e : String} (he : q.endpoint = .ok e) : x.Named := by
  cases q with
  | exchangeCode => cases h
  | profile => cases h
  | repositories => cases h
  | repository owner repo =>
    obtain rfl := Option.some.inj h
    obtain ⟨howner, hrepo⟩ := names_of_repositoryEndpoint he
    exact ⟨howner, hrepo, trivial⟩
  | tree owner repo ref =>
    obtain rfl := Option.some.inj h
    rw [endpoint, Client.treeEndpoint] at he
    split_ifs at he with href
    cases haddress : Client.repositoryEndpoint owner repo with
    | error fault =>
      rw [haddress] at he
      cases he
    | ok address =>
      obtain ⟨howner, hrepo⟩ := names_of_repositoryEndpoint haddress
      exact ⟨howner, hrepo, String.isEmpty_iff.not.mp href⟩
  | fileText owner repo path ref =>
    obtain rfl := Option.some.inj h
    rw [endpoint, Client.contentsEndpoint] at he
    dsimp only at he
    split_ifs at he with hpath
    cases haddress : Client.repositoryEndpoint owner repo with
    | error fault =>
      rw [haddress] at he
      cases he
    | ok address =>
      obtain ⟨howner, hrepo⟩ := names_of_repositoryEndpoint haddress
      exact ⟨howner, hrepo, String.isEmpty_iff.not.mp hpath⟩

theorem Item.slash_not_mem_suffix (item : Item) : ∀ s ∈ item.suffix, '/' ∉ s.toList := by
  have hslash (s : String) : '/' ∉ (encodeSegment s).toList :=
    Http.not_mem_percentEncode (by decide) (by decide) rfl s
  cases item with
  | whole => simp [suffix]
  | tree ref => simp [suffix, hslash]
  | file path ref => simp [suffix, Http.segments_encodePath, hslash]

theorem Item.hash_not_mem_query (item : Item) : ∀ q ∈ item.query, '#' ∉ q.toList := by
  cases item with
  | whole => simp [query]
  | tree ref => simp [query]
  | file path ref =>
    intro q hq
    obtain ⟨r, -, rfl⟩ := Option.map_eq_some_iff.mp hq
    have hhash : '#' ∉ (encodeSegment r).toList :=
      Http.not_mem_percentEncode (by decide) (by decide) rfl r
    simp [hhash]

theorem Resource.read_write_target {x : Resource} (h : x.Named) :
    Target.read x.target.write = x.target ↔ x.Plain := by
  rw [← x.clear_target]
  refine Target.read_write ?_ (List.cons_ne_nil _ _) x.item.hash_not_mem_query
  simpa [target, h.1.2, h.2.1.2] using x.item.slash_not_mem_suffix

/-- An inquiry for something in a repository has an endpoint just if nothing is left unnamed. The
endpoint leads to what is named just if the names have neither `?` nor `#` and nothing is made of
dots; and under that condition endpoints of different resources lead to different places. -/
theorem Inquiry.read_endpoint_eq_target {q : Inquiry} {x : Resource} (hx : q.resource? = some x) :
    ((∃ e, q.endpoint = .ok e) ↔ x.Named) ∧
    ∀ e, q.endpoint = .ok e →
      (Target.read e = x.target ↔ x.Plain) ∧
      (x.Plain → ∀ (q' : Inquiry) x' e', q'.resource? = some x' → q'.endpoint = .ok e' → x'.Plain →
        Target.read e' = Target.read e → x' = x) := by
  refine ⟨⟨fun ⟨e, he⟩ => named_of_endpoint hx he, fun h => ⟨_, endpoint_eq hx h⟩⟩, fun e he => ?_⟩
  have hread {q : Inquiry} {x : Resource} {e : String} (hx : q.resource? = some x)
      (he : q.endpoint = .ok e) : Target.read e = x.target ↔ x.Plain := by
    have hnamed := named_of_endpoint hx he
    obtain rfl := Except.ok.inj ((endpoint_eq hx hnamed).symm.trans he)
    exact Resource.read_write_target hnamed
  refine ⟨hread hx he, fun hplain q' x' e' hx' he' hplain' hsame => ?_⟩
  apply Resource.target_injective
  rw [← (hread hx' he').mpr hplain', hsame, (hread hx he).mpr hplain]

/-- A file with a blank in its path. -/
theorem Inquiry.endpoint_of_file :
    ∃ x, (fileText " octo " "hello" "/src/a b.py" (some "main")).resource? = some x ∧
      x.Named ∧ x.Plain ∧
      ∃ e, (fileText " octo " "hello" "/src/a b.py" (some "main")).endpoint = .ok e ∧
        Target.read e =
          ⟨["", "repos", "octo", "hello", "contents", "src", "a%20b.py"], some "ref=main"⟩ := by
  have hplain : Resource.Plain ⟨"octo", "hello", .file "src/a b.py" (some "main")⟩ := by
    decide +kernel
  have hnamed : Resource.Named ⟨"octo", "hello", .file "src/a b.py" (some "main")⟩ := by
    decide +kernel
  have hx : (fileText " octo " "hello" "/src/a b.py" (some "main")).resource? =
      some ⟨"octo", "hello", .file "src/a b.py" (some "main")⟩ := by
    decide +kernel
  obtain ⟨hendpoint, hread⟩ := read_endpoint_eq_target hx
  obtain ⟨e, he⟩ := hendpoint.mpr hnamed
  refine ⟨_, hx, hnamed, hplain, e, he, ?_⟩
  rw [(hread e he).1.mpr hplain]
  decide +kernel

/-- A name may end the path of the address, and a path may leave its repository. -/
theorem Inquiry.endpoint_astray :
    (∃ x, (repository "octo?x" "hello").resource? = some x ∧ x.Named ∧
      ∃ e, (repository "octo?x" "hello").endpoint = .ok e ∧ Target.read e ≠ x.target) ∧
    ∃ x x', (fileText "octo" "hello" "../../../eve/secret/contents/a" none).resource? = some x ∧
      (fileText "eve" "secret" "a" none).resource? = some x' ∧ x ≠ x' ∧
      ∃ e e', (fileText "octo" "hello" "../../../eve/secret/contents/a" none).endpoint = .ok e ∧
        (fileText "eve" "secret" "a" none).endpoint = .ok e' ∧
        Target.read e = Target.read e' := by
  refine ⟨⟨⟨"octo?x", "hello", .whole⟩, ?_, ?_, "/repos/octo?x/hello", ?_, ?_⟩,
    ⟨"octo", "hello", .file "../../../eve/secret/contents/a" none⟩,
    ⟨"eve", "secret", .file "a" none⟩, ?_, ?_, ?_,
    "/repos/octo/hello/contents/../../../eve/secret/contents/a",
    "/repos/eve/secret/contents/a", ?_, ?_, ?_⟩ <;> decide +kernel

end GitHub

end ReviewDesk
