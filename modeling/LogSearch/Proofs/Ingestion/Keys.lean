import LogSearch.Proofs.Ingestion.Delivery
import LogSearch.Proofs.Text.Cutting

/-!
# The keys of files

What a collector knows of a file it knows under the path of the file, and a path can be spelled in
many ways: from the home directory or the working directory, with slashes to spare, with single dots
that change nothing and double dots that take back what stands before them.  The key of a file is
the path in a form in which there is one spelling for each place.

A place is given by the slashes in front of the path and by the names below them.  `Path.Resolves`
says where the components of a path lead, one after the other, and `Site.LeadsTo` what the place is
to which a spelling leads at a site.  A path with exactly two slashes in front is another path than
the one with a single slash; more than two are as good as one.

`key_canonical` says that the key of a spelling is the slashes and the names of its place and
nothing else, that it is its own key at every site, and that two spellings have the same key just
when they lead to the same place.  A collector that is given other spellings of the same places
therefore does the same, round by round, and keeps the same offsets.
-/

namespace LogSearch.Ingestion

namespace Path

/-! ## Places -/

/-- A name leads from a directory to what is in it. -/
structure IsName (name : Text) : Prop where
  filled : name ≠ []
  ne_dot : name ≠ ['.']
  ne_dots : name ≠ ['.', '.']
  slash : '/' ∉ name

/-- Where components lead from a place, from left to right.  A place is the names on the way to it
from the root. -/
inductive Resolves : List Text → List Text → List Text → Prop where
  | arrived (place : List Text) : Resolves place [] place
  | stay {place rest there : List Text} {component : Text}
      (hstay : component = [] ∨ component = ['.']) (hrest : Resolves place rest there) :
      Resolves place (component :: rest) there
  | up {place rest there : List Text} (name : Text) (hrest : Resolves place rest there) :
      Resolves (place ++ [name]) (['.', '.'] :: rest) there
  | root {rest there : List Text} (hrest : Resolves [] rest there) :
      Resolves [] (['.', '.'] :: rest) there
  | down {place rest there : List Text} {name : Text} (hname : IsName name)
      (hrest : Resolves (place ++ [name]) rest there) : Resolves place (name :: rest) there

/-- A path begins with two slashes and not with three. -/
def HasTwoSlashes (path : Text) : Prop := ∃ rest, path = '/' :: '/' :: rest ∧ rest.head? ≠ some '/'

/-- The slashes in front of an absolute path. -/
inductive IsRoot (path : Text) : Text → Prop where
  | one (h : ¬ HasTwoSlashes path) : IsRoot path ['/']
  | two (h : HasTwoSlashes path) : IsRoot path ['/', '/']

variable {path slashes more component : Text} {names place rest there before : List Text}

/-! ## Components -/

lemma push_of_stay (h : component = [] ∨ component = ['.']) : push before component = before := by
  rw [push, if_pos h]

lemma push_dots : push before ['.', '.'] = before.drop 1 := by
  rw [push, if_neg (by decide), if_pos rfl]

lemma push_of_isName (h : IsName component) : push before component = component :: before := by
  rw [push, if_neg (fun hstay => hstay.elim h.filled h.ne_dot), if_neg h.ne_dots]

/-- The step and the run: reading components one after the other keeps to where they lead. -/
lemma Resolves.foldl_push (h : Resolves place rest there) :
    rest.foldl push place.reverse = there.reverse := by
  induction h with
  | arrived => rfl
  | stay hstay _ ih => rw [List.foldl_cons, push_of_stay hstay, ih]
  | up name _ ih => rw [List.foldl_cons, push_dots, List.reverse_append]; exact ih
  | root _ ih => rw [List.foldl_cons, push_dots]; exact ih
  | down hname _ ih => rw [List.foldl_cons, push_of_isName hname, ← ih, List.reverse_append]; rfl

lemma exists_resolves (hrest : ∀ component ∈ rest, '/' ∉ component) (place : List Text) :
    ∃ there, Resolves place rest there := by
  induction rest generalizing place with
  | nil => exact ⟨place, .arrived place⟩
  | cons component rest ih =>
    rw [List.forall_mem_cons] at hrest
    by_cases hstay : component = [] ∨ component = ['.']
    · obtain ⟨there, h⟩ := ih hrest.2 place
      exact ⟨there, .stay hstay h⟩
    by_cases hup : component = ['.', '.']
    · subst hup
      rcases List.eq_nil_or_concat' place with rfl | ⟨place, name, rfl⟩
      · obtain ⟨there, h⟩ := ih hrest.2 []
        exact ⟨there, .root h⟩
      · obtain ⟨there, h⟩ := ih hrest.2 place
        exact ⟨there, .up name h⟩
    · rw [not_or] at hstay
      obtain ⟨there, h⟩ := ih hrest.2 (place ++ [component])
      exact ⟨there, .down ⟨hstay.1, hstay.2, hup, hrest.1⟩ h⟩

/-- Where components lead, there are only names on the way. -/
lemma Resolves.forall_isName (h : Resolves place rest there)
    (hplace : ∀ name ∈ place, IsName name) : ∀ name ∈ there, IsName name := by
  induction h with
  | arrived => exact hplace
  | stay _ _ ih => exact ih hplace
  | up _ _ ih => exact ih fun name hname => hplace name (List.mem_append_left _ hname)
  | root _ ih => exact ih hplace
  | down hname _ ih =>
    refine ih fun name hmem => ?_
    obtain hmem | hmem := List.mem_append.1 hmem
    · exact hplace name hmem
    · rwa [List.mem_singleton.1 hmem]

/-- The components of a path are where its pieces lead. -/
lemma resolves_iff : Resolves [] (Text.splitAt '/' path) there ↔ there = components path := by
  have hresolved : ∀ {there}, Resolves [] (Text.splitAt '/' path) there →
      there = components path := by
    intro there h
    rw [components, ← List.reverse_eq_iff]
    exact h.foldl_push.symm
  constructor
  · exact hresolved
  · rintro rfl
    -- the pieces lead somewhere, and wherever that is, it is where the components are
    obtain ⟨there, h⟩ := exists_resolves (Text.eq_splitAt_iff.1 rfl).2.1 []
    rwa [← hresolved h]

lemma forall_isName_components (path : Text) : ∀ name ∈ components path, IsName name :=
  (resolves_iff.2 rfl).forall_isName (List.forall_mem_nil _)

/-! ## Roots -/

lemma root_of_hasTwoSlashes (h : HasTwoSlashes path) : root path = ['/', '/'] := by
  obtain ⟨rest, rfl, hrest⟩ := h
  rw [root]
  rintro t rfl
  exact hrest rfl

lemma root_of_not_hasTwoSlashes (h : ¬ HasTwoSlashes path) : root path = ['/'] := by
  unfold root
  split
  next => rfl
  next rest hthree =>
    refine absurd ⟨rest, rfl, fun hhead => ?_⟩ h
    obtain ⟨t, rfl⟩ := List.head?_eq_some_iff.1 hhead
    exact hthree t rfl
  next => rfl

lemma isRoot_iff : IsRoot path slashes ↔ slashes = root path := by
  by_cases h : HasTwoSlashes path
  · rw [root_of_hasTwoSlashes h]
    constructor
    · intro hroot
      cases hroot with
      | one hone => exact absurd h hone
      | two => rfl
    · rintro rfl
      exact .two h
  · rw [root_of_not_hasTwoSlashes h]
    constructor
    · intro hroot
      cases hroot with
      | one => rfl
      | two htwo => exact absurd htwo h
    · rintro rfl
      exact .one h

/-! ## Normal forms -/

/-- A root and the names below it, put together, are a path in normal form. -/
structure IsNormal (slashes : Text) (names : List Text) : Prop where
  slashes : slashes = ['/'] ∨ slashes = ['/', '/']
  names : ∀ name ∈ names, IsName name

lemma isNormal_parts (path : Text) : IsNormal (root path) (components path) := by
  refine ⟨?_, forall_isName_components path⟩
  by_cases h : HasTwoSlashes path
  · exact .inr (root_of_hasTwoSlashes h)
  · exact .inl (root_of_not_hasTwoSlashes h)

lemma resolves_names (hnames : ∀ name ∈ names, IsName name) (place : List Text) :
    Resolves place names (place ++ names) := by
  induction names generalizing place with
  | nil => rw [List.append_nil]; exact .arrived place
  | cons name names ih =>
    rw [List.forall_mem_cons] at hnames
    have hrest := ih hnames.2 (place ++ [name])
    rw [List.append_assoc, List.singleton_append] at hrest
    exact .down hnames.1 hrest

lemma resolves_join (hnames : ∀ name ∈ names, IsName name) :
    Resolves [] (Text.splitAt '/' (Text.join ['/'] names)) names := by
  by_cases hne : names = []
  · subst hne
    exact .stay (.inl rfl) (.arrived [])
  · rw [Text.splitAt_join (fun name hname => (hnames name hname).slash) hne]
    exact resolves_names hnames []

lemma head?_join_ne (hnames : ∀ name ∈ names, IsName name) :
    (Text.join ['/'] names).head? ≠ some '/' := by
  cases names with
  | nil => simp [Text.join]
  | cons name names =>
    rw [List.forall_mem_cons] at hnames
    obtain ⟨c, t, rfl⟩ := List.exists_cons_of_ne_nil hnames.1.filled
    have hc : (Text.join ['/'] ((c :: t) :: names)).head? = some c := by
      cases names <;> rfl
    rw [hc]
    rintro hslash
    obtain rfl := Option.some.inj hslash
    exact hnames.1.slash List.mem_cons_self

namespace IsNormal

variable (h : IsNormal slashes names)
include h

lemma root_eq : root (slashes ++ Text.join ['/'] names) = slashes := by
  obtain hone | htwo := h.slashes
  · rw [hone]
    refine root_of_not_hasTwoSlashes ?_
    rintro ⟨rest, heq, -⟩
    refine head?_join_ne h.names ?_
    rw [List.singleton_append, List.cons.injEq] at heq
    rw [heq.2]
    rfl
  · rw [htwo]
    exact root_of_hasTwoSlashes ⟨_, rfl, head?_join_ne h.names⟩

lemma components_eq : components (slashes ++ Text.join ['/'] names) = names := by
  have hslash : ∀ t : Text, Text.splitAt '/' ('/' :: t) = [] :: Text.splitAt '/' t := fun _ => rfl
  refine (resolves_iff.1 ?_).symm
  obtain hone | htwo := h.slashes
  · rw [hone, List.singleton_append, hslash]
    exact .stay (.inl rfl) (resolves_join h.names)
  · rw [htwo, List.cons_append, List.singleton_append, hslash, hslash]
    exact .stay (.inl rfl) (.stay (.inl rfl) (resolves_join h.names))

lemma head?_eq : (slashes ++ Text.join ['/'] names).head? = some '/' := by
  obtain hone | htwo := h.slashes
  · rw [hone]; rfl
  · rw [htwo]; rfl

end IsNormal

/-- An absolute path is read on its own, whatever the directories. -/
lemma normalize_of_absolute (habsolute : path.head? = some '/') (cwd home : Text) :
    normalize cwd home path = root path ++ Text.join ['/'] (components path) := by
  obtain ⟨rest, rfl⟩ := List.head?_eq_some_iff.1 habsolute
  rfl

lemma IsNormal.normalize_eq (h : IsNormal slashes names) (cwd home : Text) :
    normalize cwd home (slashes ++ Text.join ['/'] names) =
      slashes ++ Text.join ['/'] names := by
  rw [normalize_of_absolute h.head?_eq, h.root_eq, h.components_eq]

end Path

/-! ## Spellings -/

/-- The absolute path that a spelling stands for at a site. -/
def Site.whole (site : Site) (spelling : Text) : Text :=
  Path.absolute site.cwd (Path.expandHome site.home spelling)

/-- At a site a spelling leads to the place with these names below these slashes. -/
structure Site.LeadsTo (site : Site) (spelling slashes : Text) (names : List Text) : Prop where
  absolute : (site.whole spelling).head? = some '/'
  root : Path.IsRoot (site.whole spelling) slashes
  names : ∃ components, components ≠ [] ∧ (∀ component ∈ components, '/' ∉ component) ∧
    Text.join ['/'] components = site.whole spelling ∧ Path.Resolves [] components names

section Spellings

variable {site other : Site} {path spelling slashes : Text} {names : List Text}

lemma Site.key_eq (site : Site) (spelling : Text) :
    site.key spelling = Path.root (site.whole spelling) ++
      Text.join ['/'] (Path.components (site.whole spelling)) := rfl

lemma Site.head?_whole (hcwd : site.cwd.head? = some '/') (spelling : Text) :
    (site.whole spelling).head? = some '/' := by
  obtain ⟨rest, hrest⟩ := List.head?_eq_some_iff.1 hcwd
  unfold whole Path.absolute
  split
  next hslash =>
    rw [hslash]
    rfl
  next =>
    split
    · rw [hrest]
      rfl
    · rw [hrest]
      rfl

lemma Site.leadsTo_iff (habsolute : (site.whole spelling).head? = some '/') :
    site.LeadsTo spelling slashes names ↔ slashes = Path.root (site.whole spelling) ∧
      names = Path.components (site.whole spelling) := by
  constructor
  · rintro ⟨-, hroot, components, hne, hpieces, hjoin, hnames⟩
    rw [Text.eq_splitAt_iff.2 ⟨hne, hpieces, hjoin⟩] at hnames
    exact ⟨Path.isRoot_iff.1 hroot, Path.resolves_iff.1 hnames⟩
  · rintro ⟨hroot, hnames⟩
    obtain ⟨hne, hpieces, hjoin⟩ :=
      Text.eq_splitAt_iff.1 (rfl : Text.splitAt '/' (site.whole spelling) = _)
    exact ⟨habsolute, Path.isRoot_iff.2 hroot, _, hne, hpieces, hjoin, Path.resolves_iff.2 hnames⟩

namespace Site.LeadsTo

lemma key_eq (h : site.LeadsTo spelling slashes names) :
    site.key spelling = slashes ++ Text.join ['/'] names := by
  obtain ⟨rfl, rfl⟩ := (leadsTo_iff h.absolute).1 h
  exact site.key_eq spelling

end Site.LeadsTo

/-! ## Other spellings in a round -/

/-- At both sites the same lines are read as the same documents; the directories may differ. -/
def Site.ReadsAlike (site other : Site) : Prop := other.zone = site.zone ∧ other.now = site.now

/-- In both rounds the same places of the same files are gone over, however they are spelled. -/
structure Round.Respelled (r r' : Round) : Prop where
  files : r'.files = r.files
  reads : r.site.ReadsAlike r'.site
  paths : List.Forall₂ (fun path spelling => ∃ slashes names,
    r.site.LeadsTo path slashes names ∧ r'.site.LeadsTo spelling slashes names) r.paths r'.paths

lemma Round.Respelled.keys {r r' : Round} (h : r.Respelled r') :
    List.Forall₂ (fun path spelling => r'.site.key spelling = r.site.key path) r.paths r'.paths :=
  h.paths.imp fun _ _ ⟨_, _, hpath, hspelling⟩ => hspelling.key_eq.trans hpath.key_eq.symm

namespace Collector

variable {σ : Type} [Sink σ] {c : Collector σ}

lemma readLines_congr (h : site.ReadsAlike other) (c : Collector σ) (f : OpenFile)
    (lines : List Bytes) : c.readLines other f lines = c.readLines site f lines := by
  have haccept : ∀ (c : Collector σ) source line, c.accept other source line =
      c.accept site source line := by
    intro c source line
    rw [accept, accept, h.1, h.2]
  induction lines generalizing c f with
  | nil => rw [readLines_nil, readLines_nil]
  | cons line rest ih => simp only [readLines_cons, haccept, ih]

lemma tail_congr (h : site.ReadsAlike other) (c : Collector σ) (path : Text) :
    c.tail other path = c.tail site path := by
  simp only [tail, readFile, readOn, readLines_congr h]

lemma resume_congr (h : site.ReadsAlike other) (c : Collector σ) (s : Suspension) :
    c.resume other s = c.resume site s := by
  simp only [resume, readOn, readLines_congr h]

lemma awaited_congr (h : site.ReadsAlike other) (r : Collector σ × FileResult) :
    awaited other r = awaited site r := by
  fun_induction awaited site r with
  | case1 c s ih => rw [awaited_suspended, resume_congr h, ih]
  | case2 c lines => rw [awaited_finished]
  | case3 c fault => rw [awaited_failed]

lemma awaited_ne_suspended (site : Site) (r : Collector σ × FileResult) (s : Suspension) :
    (awaited site r).2 ≠ .suspended s := by
  fun_induction awaited site r with
  | case1 c s ih => exact ih
  | case2 c lines => simp
  | case3 c fault => simp

omit [Sink σ] in
/-- After a reading that does not wait, it is no matter how the paths to come are spelled. -/
lemma proceed_congr {path : Text} {paths paths' : List Text}
    {go go' : Collector σ → Collector σ × PassResult} (hgo : ∀ c, go' c = go c)
    {r : Collector σ × FileResult} (hr : ∀ s, r.2 ≠ .suspended s) :
    proceed path paths' go' r = proceed path paths go r := by
  obtain ⟨c, lines | fault | s⟩ := r
  · exact hgo c
  · cases fault with
    | read fault => exact hgo _
    | nulInPath => rfl
    | range fault => rfl
    | send fault => rfl
  · exact absurd rfl (hr s)

/-- A pass depends on the keys of its paths only. -/
lemma awaitedPass_pass_congr {paths paths' : List Text} (h : site.ReadsAlike other)
    (hkeys : List.Forall₂ (fun path spelling => other.key spelling = site.key path) paths paths')
    (c : Collector σ) :
    awaitedPass other (c.pass other paths') = awaitedPass site (c.pass site paths) := by
  induction hkeys generalizing c with
  | nil => rw [awaitedPass_pass_nil, awaitedPass_pass_nil]
  | @cons path spelling _ _ hkey _ ih =>
    have hpath : Path.normalize other.cwd other.home spelling =
        Path.normalize site.cwd site.home path := hkey
    rw [awaitedPass_pass_cons, awaitedPass_pass_cons, hpath, tail_congr h, awaited_congr h]
    exact proceed_congr ih (awaited_ne_suspended site _)

/-- The step: a round over other spellings is the same round. -/
lemma makeRound_respelled {r r' : Round} (h : r.Respelled r') (c : Collector σ) :
    c.makeRound r' = c.makeRound r := by
  rw [makeRound, makeRound, h.files]
  exact awaitedPass_pass_congr h.reads h.keys _

/-- The run: so are rounds one after the other. -/
lemma makeRounds_respelled {rounds rounds' : List Round}
    (h : List.Forall₂ Round.Respelled rounds rounds') (c : Collector σ) :
    c.makeRounds rounds' = c.makeRounds rounds := by
  induction h generalizing c with
  | nil => rfl
  | cons hround _ ih =>
    rw [makeRounds, List.foldl_cons, makeRound_respelled hround]
    exact ih _

end Collector

end Spellings

/-! ## Keys -/

/-- **The key of a spelling is its place.**  At a site with an absolute working directory, whatever
the home directory,

* every spelling leads to one place, and its key is the slashes of this place and its names with
  slashes between them: one slash in front or two, and no name that is empty, a single dot or two;
* the key is its own key, at whatever site it is read later;
* another spelling, at this site or another, has the same key just when it leads to the same place,
  and then an offset that is kept for the one is found for the other, and else it is not;
* a collector that goes over the same places in other spellings, round by round, does the same and
  knows the same of every file. -/
theorem key_canonical {site : Site} (hcwd : site.cwd.head? = some '/') (path : Text) :
    ∃ slashes names,
      (∀ slashes' names', site.LeadsTo path slashes' names' ↔
        slashes' = slashes ∧ names' = names) ∧
      site.key path = slashes ++ Text.join ['/'] names ∧ Path.IsNormal slashes names ∧
      (∀ later : Site, later.key (site.key path) = site.key path) ∧
      (∀ other : Site, other.cwd.head? = some '/' → ∀ spelling,
        (other.key spelling = site.key path ↔ other.LeadsTo spelling slashes names) ∧
          ∀ (σ : Type) (c : Collector σ) (offset : Int),
            let kept := c.setOffset (site.key path) offset
            (other.LeadsTo spelling slashes names → kept.offset (other.key spelling) = offset) ∧
              (¬ other.LeadsTo spelling slashes names →
                kept.offset (other.key spelling) = c.offset (other.key spelling))) ∧
      ∀ (σ : Type) [Sink σ] (c : Collector σ) (rounds rounds' : List Round),
        List.Forall₂ Round.Respelled rounds rounds' →
          c.makeRounds rounds' = c.makeRounds rounds := by
  have hnormal := Path.isNormal_parts (site.whole path)
  have hkey : ∀ other : Site, other.cwd.head? = some '/' → ∀ spelling,
      (other.key spelling = site.key path ↔ other.LeadsTo spelling
        (Path.root (site.whole path)) (Path.components (site.whole path))) := by
    intro other hother spelling
    constructor
    · intro heq
      rw [Site.key_eq, Site.key_eq] at heq
      -- a normal form is read back into its root and its names, so equal keys have equal ones
      have hspelling := Path.isNormal_parts (other.whole spelling)
      have hroot := hspelling.root_eq
      have hnames := hspelling.components_eq
      rw [heq, hnormal.root_eq] at hroot
      rw [heq, hnormal.components_eq] at hnames
      exact (Site.leadsTo_iff (Site.head?_whole hother spelling)).2 ⟨hroot, hnames⟩
    · intro h
      rw [h.key_eq, Site.key_eq]
  refine ⟨_, _, fun slashes' names' => Site.leadsTo_iff (Site.head?_whole hcwd path),
    site.key_eq path, hnormal, fun later => ?_, fun other hother spelling =>
      ⟨hkey other hother spelling, fun σ c offset => ⟨fun h => ?_, fun h => ?_⟩⟩,
    fun σ _ c rounds rounds' h => Collector.makeRounds_respelled h c⟩
  · rw [Site.key_eq site, Site.key]
    exact hnormal.normalize_eq later.cwd later.home
  · rw [Collector.offset_setOffset, if_pos ((hkey other hother spelling).2 h)]
  · rw [Collector.offset_setOffset, if_neg (mt (hkey other hother spelling).1 h)]

/-- A path spelled from the home directory, by way of what is taken back, and from the root: they
share an offset and a round.  From a working directory with two slashes in front the same spelling
leads to another place. -/
theorem key_canonical_of_spellings :
    let site : Site := ⟨⟨0⟩, "/work", "/home/me/", ⟨0, by decide⟩⟩
    let other : Site := ⟨⟨0⟩, "/", "", ⟨0, by decide⟩⟩
    let apart : Site := ⟨⟨0⟩, "//", "", ⟨0, by decide⟩⟩
    let path : Text := "~/../x//./y/.."
    let spelling : Text := "home/x/"
    let fresh : Collector ScriptedSink :=
      .new (.inDirectories []) ⟨"logs", 1, [], 0, 0, 0, 0⟩ ⟨[], [], []⟩
    let kept := fresh.setOffset (site.key path) 7
    site.cwd.head? = some '/' ∧ site.key path = "/home/x" ∧
      apart.key (site.key path) = site.key path ∧
      other.LeadsTo spelling "/" ["home", "x"] ∧ kept.offset (other.key spelling) = 7 ∧
      ¬ apart.LeadsTo spelling "/" ["home", "x"] ∧ kept.offset (apart.key spelling) = 0 ∧
      ∀ files, fresh.makeRounds [⟨files, other, [spelling]⟩] =
        fresh.makeRounds [⟨files, site, [path]⟩] := by
  intro site other apart path spelling fresh kept
  have hcwd : site.cwd.head? = some '/' := by decide +kernel
  have hpath : site.LeadsTo path "/" ["home", "x"] :=
    (Site.leadsTo_iff (Site.head?_whole hcwd path)).2 ⟨by decide +kernel, by decide +kernel⟩
  obtain ⟨slashes, names, hplace, hkey, -, hagain, hothers, hrounds⟩ := key_canonical hcwd path
  obtain ⟨rfl, rfl⟩ := (hplace _ _).1 hpath
  obtain ⟨hshared, hoffset⟩ := hothers other (by decide +kernel) spelling
  obtain ⟨hapart, hoffset'⟩ := hothers apart (by decide +kernel) spelling
  have hspelling : other.LeadsTo spelling "/" ["home", "x"] := hshared.1 (by decide +kernel)
  have hnot : ¬ apart.LeadsTo spelling "/" ["home", "x"] := mt hapart.2 (by decide +kernel)
  refine ⟨hcwd, by decide +kernel, hagain apart, hspelling, (hoffset _ fresh 7).1 hspelling, hnot,
    (hoffset' _ fresh 7).2 hnot, fun files => ?_⟩
  refine hrounds _ fresh _ _ (.cons ⟨rfl, ⟨rfl, rfl⟩, ?_⟩ .nil)
  exact .cons ⟨_, _, hpath, hspelling⟩ .nil

end LogSearch.Ingestion
