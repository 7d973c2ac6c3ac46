import GraphWalk.Proofs.Files.Clean
import GraphWalk.Proofs.List.Related
import GraphWalk.Proofs.Text.Bytes
import GraphWalk.Proofs.Value.Keys

/-!
# Which files are found

A listed path gives itself, if it is a file with the ending, or the files with the ending below it,
if it is a directory (`Gives`). Below a directory these are the files that names lead to without
entering a directory whose name starts with a dot (`Offers`); the search comes to them one
directory after the other (`mem_filesBelow`), and to no others.

Main result: `found_of_find`. **A search that succeeds finds exactly the files that a listed path
gives**, in the order of their bytes, each once. Which paths are listed twice, and in which order,
makes no difference. Where names are such that a system can have them, each path that is found
leads to a file (`resolve_of_find`).
-/

namespace GraphWalk.Entry

variable {above : List Entry} {e d dir root : Entry} {children : List (String × Entry)}
  {extension name path place p : String} {names paths paths' found : List String}

/-! ## Files below a directory -/

/-- Names lead from an entry down to another. -/
inductive Leads : Entry → List String → Entry → Prop
  | here {e : Entry} : Leads e [] e
  | down {children : List (String × Entry)} {name : String} {d e : Entry} {names : List String} :
    (name, d) ∈ children → Leads d names e → Leads (.directory children) (name :: names) e

/-- Below the entry, the names lead to a file with the ending, and through no directory whose name
starts with a dot. -/
def Offers (dir : Entry) (extension : String) (names : List String) : Prop :=
  ∃ way name text, names = way ++ [name] ∧ dir.Leads names (.file text) ∧
    extension.toList <:+ name.toList ∧ ∀ n ∈ way, n.toList.head? ≠ some '.'

/-- As `Offers`, from the entry that stands under `name`: it is the file itself, or a directory
that may be entered. -/
def Continues (e : Entry) (extension name : String) (names : List String) : Prop :=
  (names = [] ∧ (∃ text, e = .file text) ∧ extension.toList <:+ name.toList) ∨
    (name.toList.head? ≠ some '.' ∧ e.Offers extension names)

theorem not_offers_file (text : String) : ¬(Entry.file text).Offers extension names := by
  rintro ⟨way, name, text', rfl, hleads, -⟩
  cases way <;> cases hleads

/-- **What a directory offers**, one of its entries continues. -/
theorem offers_directory : (Entry.directory children).Offers extension names ↔
    ∃ name e rest, (name, e) ∈ children ∧ names = name :: rest ∧
      e.Continues extension name rest := by
  constructor
  · rintro ⟨way, last, text, rfl, hleads, hlast, hway⟩
    cases way with
    | nil =>
      cases hleads with
      | down hmem hleads =>
        cases hleads
        exact ⟨last, _, [], hmem, rfl, Or.inl ⟨rfl, ⟨text, rfl⟩, hlast⟩⟩
    | cons n way =>
      obtain ⟨hn, hway⟩ := List.forall_mem_cons.1 hway
      cases hleads with
      | down hmem hleads =>
        refine ⟨n, _, way ++ [last], hmem, rfl, Or.inr ⟨hn, ?_⟩⟩
        exact ⟨way, last, text, rfl, hleads, hlast, hway⟩
  · rintro ⟨n, e, rest, hmem, rfl, ⟨rfl, ⟨text, rfl⟩, hlast⟩ | ⟨hn, hoffers⟩⟩
    · exact ⟨[], n, text, rfl, .down hmem .here, hlast, fun n hn => absurd hn List.not_mem_nil⟩
    · obtain ⟨way, last, text, rfl, hleads, hlast, hway⟩ := hoffers
      exact ⟨n :: way, last, text, rfl, .down hmem hleads, hlast, List.forall_mem_cons.2 ⟨hn, hway⟩⟩

theorem offers_cons : (Entry.directory ((name, e) :: children)).Offers extension names ↔
    (∃ rest, names = name :: rest ∧ e.Continues extension name rest) ∨
      (Entry.directory children).Offers extension names := by
  simp only [offers_directory, List.mem_cons, Prod.mk.injEq]
  constructor
  · rintro ⟨n, d, rest, ⟨rfl, rfl⟩ | hmem, hnames, hcontinues⟩
    · exact Or.inl ⟨rest, hnames, hcontinues⟩
    · exact Or.inr ⟨n, d, rest, hmem, hnames, hcontinues⟩
  · rintro (⟨rest, hnames, hcontinues⟩ | ⟨n, d, rest, hmem, hnames, hcontinues⟩)
    · exact ⟨name, e, rest, Or.inl ⟨rfl, rfl⟩, hnames, hcontinues⟩
    · exact ⟨n, d, rest, Or.inr hmem, hnames, hcontinues⟩

theorem endsWith_iff : name.endsWith extension = true ↔ extension.toList <:+ name.toList := by
  rw [String.endsWith_eq_endsWith_toSlice, String.Slice.endsWith_string_iff]
  simp

theorem startsWith_dot_iff : name.startsWith "." = true ↔ name.toList.head? = some '.' := by
  rw [String.startsWith_string_iff]
  cases h : name.toList with
  | nil => simp
  | cons c cs => simp [eq_comm]

mutual

/-- The search below an entry comes to what continues there. -/
theorem mem_filesFrom : ∀ (e : Entry) (place name : String),
    p ∈ filesFrom extension place name e ↔
      ∃ names, e.Continues extension name names ∧ p = names.foldl Files.child place
  | .file text, place, name => by
    rw [filesFrom]
    constructor
    · intro hp
      split at hp
      · rename_i hname
        cases List.mem_singleton.1 hp
        exact ⟨[], Or.inl ⟨rfl, ⟨text, rfl⟩, endsWith_iff.1 hname⟩, rfl⟩
      · cases hp
    · rintro ⟨names, ⟨rfl, -, hname⟩ | ⟨-, hoffers⟩, rfl⟩
      · rw [if_pos (endsWith_iff.2 hname)]
        exact List.mem_singleton.2 rfl
      · exact absurd hoffers (not_offers_file text)
  | .directory children, place, name => by
    rw [filesFrom]
    constructor
    · intro hp
      -- a directory whose name starts with a dot is not entered
      split at hp
      · cases hp
      · rename_i hdot
        obtain ⟨names, hoffers, hplace⟩ := (mem_filesBelow children place).1 hp
        exact ⟨names, Or.inr ⟨fun h => hdot (startsWith_dot_iff.2 h), hoffers⟩, hplace⟩
    · rintro ⟨names, ⟨-, ⟨text, htext⟩, -⟩ | ⟨hdot, hoffers⟩, hplace⟩
      · cases htext
      · rw [if_neg fun h => hdot (startsWith_dot_iff.1 h)]
        exact (mem_filesBelow children place).2 ⟨names, hoffers, hplace⟩

/-- **The search comes to what a directory offers**, and to nothing else. -/
theorem mem_filesBelow : ∀ (children : List (String × Entry)) (place : String),
    p ∈ filesBelow extension place children ↔
      ∃ names, (Entry.directory children).Offers extension names ∧
        p = names.foldl Files.child place
  | [], place => by
    rw [filesBelow]
    refine iff_of_false List.not_mem_nil ?_
    rintro ⟨names, hoffers, -⟩
    obtain ⟨n, e, rest, hmem, -⟩ := offers_directory.1 hoffers
    cases hmem
  | (name, e) :: children, place => by
    rw [filesBelow, List.mem_append, mem_filesFrom e, mem_filesBelow children]
    simp only [offers_cons]
    constructor
    · rintro (⟨rest, hcontinues, rfl⟩ | ⟨names, hoffers, rfl⟩)
      · exact ⟨name :: rest, Or.inl ⟨rest, rfl, hcontinues⟩, rfl⟩
      · exact ⟨names, Or.inr hoffers, rfl⟩
    · rintro ⟨names, ⟨rest, rfl, hcontinues⟩ | hoffers, rfl⟩
      · exact Or.inl ⟨rest, hcontinues, rfl⟩
      · exact Or.inr ⟨names, hoffers, rfl⟩

end

/-! ## What a path gives -/

/-- The listed path gives `p`: it is a file with the ending, and `p` its clean form, or names lead
from it to such a file below, and `p` is the clean form of the whole way. -/
def Gives (root : Entry) (above : List Entry) (extension path p : String) : Prop :=
  (∃ text, root.resolve path above = .ok (.file text) ∧ extension.toList <:+ path.toList ∧
    p = Files.clean path) ∨
  ∃ dir names, root.resolve path above = .ok dir ∧ dir.Offers extension names ∧
    p = Files.clean (path ++ "/" ++ "/".intercalate names)

theorem Offers.ne_nil (h : dir.Offers extension names) : names ≠ [] := by
  obtain ⟨way, last, text, rfl, -⟩ := h
  exact List.append_ne_nil_of_right_ne_nil way (List.cons_ne_nil last [])

/-- **A path that can be looked up** has the files that it gives. -/
theorem mem_filesAt (h : root.filesAt above extension path = .ok found) :
    p ∈ found ↔ root.Gives above extension path p := by
  unfold filesAt at h
  unfold Gives
  cases hresolve : root.resolve path above with
  | error why =>
    rw [hresolve] at h
    cases why with
    | notDirectory => cases h
    | missing =>
      cases h
      refine iff_of_false List.not_mem_nil ?_
      rintro (⟨text, htext, -⟩ | ⟨dir, names, hdir, -⟩)
      · cases htext
      · cases hdir
  | ok e =>
    rw [hresolve] at h
    cases e with
    | file text =>
      have hfound : found = if path.endsWith extension then [Files.clean path] else [] :=
        (Except.ok.inj h).symm
      rw [hfound]
      constructor
      · intro hp
        split at hp
        · rename_i hends
          exact Or.inl ⟨text, rfl, endsWith_iff.1 hends, List.mem_singleton.1 hp⟩
        · cases hp
      · rintro (⟨-, -, hends, rfl⟩ | ⟨dir, names, hdir, hoffers, -⟩)
        · rw [if_pos (endsWith_iff.2 hends)]
          exact List.mem_singleton.2 rfl
        · cases hdir
          exact absurd hoffers (not_offers_file text)
    | directory children =>
      cases h
      obtain ⟨hne, hrooted, -⟩ := resolve_eq_ok.1 hresolve
      rw [mem_filesBelow]
      constructor
      · rintro ⟨names, hoffers, rfl⟩
        exact Or.inr ⟨_, names, rfl, hoffers, Files.foldl_child hne hrooted hoffers.ne_nil⟩
      · rintro (⟨text, htext, -⟩ | ⟨dir, names, hdir, hoffers, rfl⟩)
        · cases htext
        · cases hdir
          exact ⟨names, hoffers, (Files.foldl_child hne hrooted hoffers.ne_nil).symm⟩

/-- A path cannot be looked up just if it leads through a file. -/
theorem filesAt_ok_iff (extension : String) :
    (∃ found, root.filesAt above extension path = .ok found) ↔
      root.resolve path above ≠ .error .notDirectory := by
  unfold filesAt
  cases root.resolve path above with
  | error why => cases why <;> simp
  | ok e => cases e <;> simp

/-! ## What all paths give -/

theorem mem_gather : ∀ {paths found : List String},
    root.gather above extension paths = .ok found →
      (p ∈ found ↔ ∃ path ∈ paths, root.Gives above extension path p)
  | [], found, h => by
    cases h
    simp
  | path :: paths, found, h => by
    rw [gather] at h
    split at h
    · cases h
    · rename_i first hfirst
      obtain ⟨rest, hrest, rfl⟩ := of_map_ok h
      rw [List.mem_append, mem_filesAt hfirst, mem_gather hrest]
      simp only [List.mem_cons, exists_eq_or_imp]

theorem gather_ok_iff (extension : String) :
    (∃ found, root.gather above extension paths = .ok found) ↔
      ∀ path ∈ paths, root.resolve path above ≠ .error .notDirectory := by
  induction paths with
  | nil => exact iff_of_true ⟨[], rfl⟩ fun path hpath => absurd hpath List.not_mem_nil
  | cons path paths ih =>
    rw [List.forall_mem_cons, ← ih, ← filesAt_ok_iff extension, gather]
    cases root.filesAt above extension path with
    | error why => simp
    | ok first => cases root.gather above extension paths <;> simp [Except.map]

/-! ## Sorted, each once -/

theorem mem_sortedOnce {texts : List String} : p ∈ sortedOnce texts ↔ p ∈ texts := by
  have hord := ordered_sortKeys (texts.map fun t => (t, ()))
  unfold sortedOnce
  constructor
  · intro hp
    obtain ⟨⟨q, u⟩, hq, rfl⟩ := List.mem_map.1 hp
    rw [mem_iff_lookupKey hord.nodup, lookupKey_sortKeys] at hq
    obtain ⟨t, ht, heq⟩ := List.mem_map.1 (List.mem_reverse.1 (mem_of_lookupKey hq))
    cases heq
    exact ht
  · intro hp
    have hmem : (p, ()) ∈ (texts.map fun t => (t, ())).reverse :=
      List.mem_reverse.2 (List.mem_map_of_mem (f := fun t => (t, ())) hp)
    obtain ⟨u, hlook⟩ := exists_lookupKey (List.mem_map_of_mem (f := (·.1)) hmem)
    rw [← lookupKey_sortKeys] at hlook
    exact List.mem_map_of_mem (f := (·.1)) (mem_of_lookupKey hlook)

theorem pairwise_sortedOnce (texts : List String) : (sortedOnce texts).Pairwise (· < ·) :=
  List.pairwise_map.2 (ordered_sortKeys _)

/-- What is sorted depends only on which texts there are. -/
theorem sortedOnce_congr {texts texts' : List String} (h : ∀ t, t ∈ texts ↔ t ∈ texts') :
    sortedOnce texts = sortedOnce texts' := by
  have hlt := pairwise_sortedOnce texts
  have hlt' := pairwise_sortedOnce texts'
  have hperm : (sortedOnce texts).Perm (sortedOnce texts') := by
    refine (List.perm_ext_iff_of_nodup (hlt.imp ne_of_lt) (hlt'.imp ne_of_lt)).2 fun t => ?_
    rw [mem_sortedOnce, mem_sortedOnce, h]
  exact hperm.eq_of_pairwise (fun a b _ _ hab hba => absurd hab (lt_asymm hba)) hlt hlt'

/-! ## The search -/

theorem find_eq_ok : root.find paths extension above = .ok found ↔ extension ≠ "" ∧
    ∃ all, root.gather above extension paths = .ok all ∧ found = sortedOnce all := by
  unfold find
  by_cases hext : extension = ""
  · simp [hext]
  · rw [if_neg hext]
    cases root.gather above extension paths with
    | error why => simp [Except.map]
    | ok all => simp [Except.map, hext, eq_comm]

/-- **A search succeeds** just if it is for some ending and no listed path leads through a file. -/
theorem find_ok_iff : (∃ found, root.find paths extension above = .ok found) ↔
    extension ≠ "" ∧ ∀ path ∈ paths, root.resolve path above ≠ .error .notDirectory := by
  simp only [find_eq_ok]
  rw [← gather_ok_iff extension]
  constructor
  · rintro ⟨found, hext, all, hall, -⟩
    exact ⟨hext, all, hall⟩
  · rintro ⟨hext, all, hall⟩
    exact ⟨_, hext, all, hall, rfl⟩

/-- **What a search finds.** The files are in the order of their bytes, each once; the order of the
listed paths and their repeats make no difference; and a path is found just if a listed path gives
it. -/
theorem found_of_find (h : root.find paths extension above = .ok found) :
    found.Pairwise (fun a b => Text.bytes a.toList < Text.bytes b.toList) ∧
    (∀ paths', (∀ path, path ∈ paths' ↔ path ∈ paths) →
      root.find paths' extension above = .ok found) ∧
    ∀ p, p ∈ found ↔ ∃ path ∈ paths, root.Gives above extension path p := by
  obtain ⟨hext, all, hall, rfl⟩ := find_eq_ok.1 h
  refine ⟨?_, fun paths' hsame => ?_, fun p => ?_⟩
  · exact (pairwise_sortedOnce all).imp Text.bytes_lt_iff.2
  · have hok : ∃ all', root.gather above extension paths' = .ok all' := by
      refine (gather_ok_iff extension).2 fun path hpath => ?_
      exact (gather_ok_iff extension).1 ⟨all, hall⟩ path ((hsame path).1 hpath)
    obtain ⟨all', hall'⟩ := hok
    refine find_eq_ok.2 ⟨hext, all', hall', sortedOnce_congr fun p => ?_⟩
    rw [mem_gather hall, mem_gather hall']
    simp only [hsame]
  · rw [mem_sortedOnce, mem_gather hall]

/-- Two files with the ending and one without, and one in a directory whose name starts with a
dot. -/
def sampleTree : Entry := .directory [("a.hcl", .file ""), (".hidden", .directory
  [("d.hcl", .file "")]), ("nested", .directory [("c.hcl", .file ""), ("notes", .file "")])]

/-- The directory above, with another file. -/
def sampleAbove : Entry := .directory [("up.hcl", .file ""), ("work", sampleTree)]

/-- The directory in two spellings, the one that is skipped from there, files by their own, and
one that is missing. -/
def samplePaths : List String := ["nested/..", ".", ".hidden", "./a.hcl", "../up.hcl", "missing"]

def sampleFound : List String := ["../up.hcl", ".hidden/d.hcl", "a.hcl", "nested/c.hcl"]

theorem found_of_find_sample :
    sampleTree.find samplePaths ".hcl" [sampleAbove] = .ok sampleFound ∧
    sampleFound.Pairwise (fun a b => Text.bytes a.toList < Text.bytes b.toList) ∧
    sampleTree.find samplePaths.reverse ".hcl" [sampleAbove] = .ok sampleFound ∧
    (∃ path ∈ samplePaths, sampleTree.Gives [sampleAbove] ".hcl" path ".hidden/d.hcl") ∧
    ¬∃ path ∈ samplePaths, sampleTree.Gives [sampleAbove] ".hcl" path "nested/notes" := by
  have hfind : sampleTree.find samplePaths ".hcl" [sampleAbove] = .ok sampleFound := by
    decide +kernel
  obtain ⟨hsorted, horder, hmem⟩ := found_of_find hfind
  have hhidden : ".hidden/d.hcl" ∈ sampleFound := by decide
  have hnotes : "nested/notes" ∉ sampleFound := by decide
  exact ⟨hfind, hsorted, horder _ fun path => List.mem_reverse, (hmem _).1 hhidden,
    fun hgives => hnotes ((hmem _).2 hgives)⟩

/-! ## What is found is there -/

/-- A name that an entry of a directory can have. -/
def IsName (s : String) : Prop := s ≠ "" ∧ s ≠ "." ∧ s ≠ ".." ∧ '/' ∉ s.toList

/-- Every entry below has a name that an entry can have, and no two of one directory the same. -/
inductive Proper : Entry → Prop
  | file (text : String) : Proper (.file text)
  | directory {children : List (String × Entry)} : (children.map (·.1)).Nodup →
    (∀ p ∈ children, IsName p.1) → (∀ p ∈ children, p.2.Proper) → Proper (.directory children)

/-- Names lead down from a proper entry as a path does. -/
theorem Leads.goes (h : Leads e names d) (hproper : e.Proper) :
    ∃ above', Goes above e names above' d := by
  induction h generalizing above with
  | here => exact ⟨above, .here⟩
  | @down children name d e names hmem _ ih =>
    cases hproper with
    | directory hnd hnames hchildren =>
      obtain ⟨hne, hdot, hup, -⟩ := hnames _ hmem
      obtain ⟨above', hgoes⟩ : ∃ above', Goes (.directory children :: above) d names above' e :=
        ih (hchildren _ hmem)
      exact ⟨above', .down hne hdot hup ((mem_iff_lookupKey hnd).1 hmem) hgoes⟩

theorem Leads.noSlash (h : Leads e names d) (hproper : e.Proper) :
    ∀ s ∈ names, '/' ∉ s.toList := by
  induction h with
  | here => exact fun s hs => absurd hs List.not_mem_nil
  | down hmem _ ih =>
    cases hproper with
    | directory _ hnames hchildren =>
      exact List.forall_mem_cons.2 ⟨(hnames _ hmem).2.2.2, ih (hchildren _ hmem)⟩

/-- Segments lead to proper entries, from one that is proper below such. -/
theorem Goes.proper {above' : List Entry} (h : Goes above e names above' d) (he : e.Proper)
    (habove : ∀ a ∈ above, a.Proper) : d.Proper := by
  induction h with
  | here => exact he
  | stay _ _ ih => exact ih he habove
  | up _ ih =>
    obtain ⟨hup, habove⟩ := List.forall_mem_cons.1 habove
    exact ih hup habove
  | down _ _ _ hd _ ih =>
    have hmem := mem_of_lookupKey hd
    refine ih ?_ (List.forall_mem_cons.2 ⟨he, habove⟩)
    cases he with
    | directory _ _ hchildren => exact hchildren _ hmem

/-- **What is found is there**: where entries have the names that they can have, each path that is
found leads to a file. -/
theorem resolve_of_find (hroot : root.Proper) (habove : ∀ a ∈ above, a.Proper)
    (h : root.find paths extension above = .ok found) (hp : p ∈ found) :
    ∃ text, root.resolve p above = .ok (.file text) := by
  obtain ⟨hext, all, hall, rfl⟩ := find_eq_ok.1 h
  obtain ⟨path, -, ⟨text, htext, -, rfl⟩ | ⟨dir, names, hdir, hoffers, rfl⟩⟩ :=
    (mem_gather hall).1 (mem_sortedOnce.1 hp)
  · exact ⟨text, resolve_clean htext⟩
  · have hnames := hoffers.ne_nil
    obtain ⟨way, last, text, -, hleads, -⟩ := hoffers
    obtain ⟨hne, hrooted, above', hgoes⟩ := resolve_eq_ok.1 hdir
    have hproper : dir.Proper := hgoes.proper hroot habove
    obtain ⟨above'', hbelow⟩ : ∃ above'', Goes above' dir names above'' (.file text) :=
      hleads.goes hproper
    -- the names are followed from where the path leads
    have hsegments : Files.segments (path ++ "/" ++ "/".intercalate names) =
        Files.segments path ++ names := by
      rw [Files.segments_append, Files.segments_intercalate hnames (hleads.noSlash hproper)]
    refine ⟨text, resolve_clean (resolve_eq_ok.2 ⟨?_, ?_, above'', ?_⟩)⟩
    · intro heq
      exact hne (String.append_eq_empty_iff.1 (String.append_eq_empty_iff.1 heq).1).1
    · rw [String.append_assoc, Files.isRooted_append hne, hrooted]
    · rw [hsegments, goes_append]
      exact ⟨above', dir, hgoes, hbelow⟩

end GraphWalk.Entry
