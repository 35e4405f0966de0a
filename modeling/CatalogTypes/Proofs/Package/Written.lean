import CatalogTypes.Package.Emission
import CatalogTypes.Proofs.Files.Writing
import CatalogTypes.Proofs.Package.Stored

/-! # Packages on disk

The files of a package are written one after the other, and the first that cannot be written ends
it. Since none of them makes or replaces a directory, whether a file can be written shows before
any other is. What one package is written over thus never depends on the files of another one.
-/
namespace CatalogTypes.Package
open FileTree Identifier

variable {tree : FileTree} {root : Path} {p : Path} {dir : Location} {output : List OutputFile}

def writeFiles (root : Path) : List OutputFile → FileTree → Except Failure Unit × FileTree
  | [], tree => (.ok (), tree)
  | f :: rest, tree =>
    match tree.writeText (Output.place root f.path) f.content with
    | (.ok (), tree) => writeFiles root rest tree
    | (.error e, tree) => (.error e, tree)

def failure? (tree : FileTree) (root : Path) (f : OutputFile) : Option Failure :=
  match (tree.writeText (Output.place root f.path) f.content).1 with
  | .ok () => none
  | .error e => some e

def firstFailure? (tree : FileTree) (root : Path) (output : List OutputFile) : Option Failure :=
  output.findSome? (failure? tree root)

theorem result_writeAll_disk (root : Path) (output : List OutputFile) (w : World) :
    ∃ log, (writeAll (.disk root) output).result w =
      ((writeFiles root output w.files).1,
        { w with files := (writeFiles root output w.files).2, log := log }) := by
  induction output generalizing w with
  | nil => exact ⟨w.log, rfl⟩
  | cons f rest ih =>
    rw [writeAll, Run.result_bind, Output.write, Run.result_bind, Run.result_changeFiles,
      writeFiles]
    rcases w.files.writeText (Output.place root f.path) f.content with ⟨answer, tree⟩
    cases answer with
    | error e => exact ⟨w.log, rfl⟩
    | ok done => exact ih _

def LiesIn (root p : Path) (names : Text → Prop) (output : List OutputFile) : Prop :=
  ∀ f ∈ output, ∃ name, names name ∧ IsName name ∧ Output.place root f.path = p.child name

section Turns
variable {names : Text → Prop} (h : tree.LeadsTo p dir) (ho : LiesIn root p names output)
include h ho

theorem sameBut_writeFiles :
    SameBut (fun place => ∃ name, names name ∧ place = dir ++ [name]) tree
      (writeFiles root output tree).2 := by
  induction output generalizing tree with
  | nil => exact .refl _ tree
  | cons f rest ih =>
    obtain ⟨name, hname, hn, hpath⟩ := ho f List.mem_cons_self
    have hs : SameBut (fun place => ∃ name, names name ∧ place = dir ++ [name]) tree
        (tree.writeText (Output.place root f.path) f.content).2 := by
      rw [hpath]
      exact (sameBut_writeText h hn f.content).mono fun place hpl => ⟨name, hname, hpl⟩
    rw [writeFiles]
    rcases htree : tree.writeText (Output.place root f.path) f.content with ⟨answer, next⟩
    rw [htree] at hs
    cases answer with
    | error e => exact hs
    | ok done =>
      exact hs.trans (ih (hs.leadsTo_iff.mp h) fun g hg => ho g (List.mem_cons_of_mem _ hg))

/-- Trees with the same directories give the same answer, and differ as before. -/
theorem writeFiles_of_sameBut {changed : Location → Prop} {other : FileTree}
    (hs : SameBut changed tree other) :
    (writeFiles root output tree).1 = (writeFiles root output other).1 ∧
      SameBut changed (writeFiles root output tree).2 (writeFiles root output other).2 := by
  induction output generalizing tree other with
  | nil => exact ⟨rfl, hs⟩
  | cons f rest ih =>
    obtain ⟨name, _, hn, hpath⟩ := ho f List.mem_cons_self
    obtain ⟨ha, hw⟩ := hs.writeText h hn f.content
    have hk := (sameBut_writeText h hn f.content).leadsTo_iff.mp h
    rw [← hpath] at ha hw hk
    rw [Package.writeFiles, Package.writeFiles]
    rcases htree : tree.writeText (Output.place root f.path) f.content with ⟨answer, next⟩
    rcases hother : other.writeText (Output.place root f.path) f.content with ⟨answer', next'⟩
    rw [htree, hother] at ha hw
    rw [htree] at hk
    cases ha
    cases answer with
    | error e => exact ⟨rfl, hw⟩
    | ok done => exact ih hk (fun g hg => ho g (List.mem_cons_of_mem _ hg)) hw

omit ho in
/-- A file that cannot be written cannot be opened, or else its text has no bytes. -/
theorem failure?_cases {f : OutputFile} {name : Text} (hn : IsName name)
    (hpath : Output.place root f.path = p.child name) {e : Failure}
    (he : failure? tree root f = some e) :
    e.isFileFault = true ∨ ∃ cause, e = .unencodable cause := by
  rw [failure?, hpath] at he
  by_cases hopens : tree.Opens p dir name
  · rw [(writeText_child_of_opens h hn hopens f.content).1, encoded] at he
    cases hc : Utf8.encode f.content with
    | error cause =>
      rw [hc] at he
      cases he
      exact .inr ⟨cause, rfl⟩
    | ok bytes =>
      rw [hc] at he
      cases he
  · rw [writeText_child_of_not_opens h hn hopens] at he
    cases he
    exact .inl rfl

theorem firstFailure?_cases {e : Failure} (he : firstFailure? tree root output = some e) :
    e.isFileFault = true ∨ ∃ cause, e = .unencodable cause := by
  obtain ⟨f, hf, hfe⟩ := List.exists_of_findSome?_eq_some he
  obtain ⟨name, _, hn, hpath⟩ := ho f hf
  exact failure?_cases h hn hpath hfe

theorem firstFailure?_of_sameBut {changed : Location → Prop} {other : FileTree}
    (hs : SameBut changed tree other) :
    firstFailure? other root output = firstFailure? tree root output := by
  induction output with
  | nil => rfl
  | cons f rest ih =>
    obtain ⟨name, _, hn, hpath⟩ := ho f List.mem_cons_self
    have hf : failure? other root f = failure? tree root f := by
      rw [failure?, failure?, hpath, (hs.writeText h hn f.content).1]
    have hr := ih fun g hg => ho g (List.mem_cons_of_mem _ hg)
    rw [firstFailure?, firstFailure?] at hr
    rw [firstFailure?, firstFailure?, List.findSome?_cons, List.findSome?_cons, hf, hr]

/-- Whether a file can be written does not depend on those that are written before it. -/
theorem writeFiles_eq : (writeFiles root output tree).1 = (firstFailure? tree root output).elim
    (.ok ()) .error := by
  induction output generalizing tree with
  | nil => rfl
  | cons f rest ih =>
    obtain ⟨name, _, hn, hpath⟩ := ho f List.mem_cons_self
    have hr : LiesIn root p names rest := fun g hg => ho g (List.mem_cons_of_mem _ hg)
    have hs := sameBut_writeText h hn f.content
    rw [← hpath] at hs
    rw [Package.writeFiles, firstFailure?, List.findSome?_cons, failure?]
    rcases htree : tree.writeText (Output.place root f.path) f.content with ⟨answer, next⟩
    rw [htree] at hs
    cases answer with
    | error e => rfl
    | ok done =>
      have hnext := hs.leadsTo_iff.mp h
      have hf := firstFailure?_of_sameBut h hr hs
      simp only
      rw [ih hnext hr, hf]
      rfl

end Turns

theorem IsFileName.isName {name : Text} (h : IsFileName name) : IsName name := by
  have hc : ∀ c ∈ name, c.isSurrogate = false ∧ Utf8.isLoose c = false ∧ c ≠ 0 := by
    intro c hm
    have hl : c.val < 0x80 ∧ c ≠ 0 := by
      obtain ⟨d, rest, rfl, hd, hr⟩ := h
      have hr' : ∀ e ∈ d :: rest, e.isAlphanumeric ∨ e = '.' := by
        intro e he
        rcases List.mem_cons.mp he with rfl | he
        · exact .inl (isAlphanumeric_of_isLetter hd)
        · exact hr e he
      rcases hr' c hm with ha | rfl
      · refine ⟨lt_of_isAlphanumeric ha, ?_⟩
        rintro rfl
        exact absurd ha (by decide)
      · decide
    have hs : c.isSurrogate = false := by
      simp only [CodePoint.isSurrogate, Bool.and_eq_false_iff, decide_eq_false_iff_not]
      omega
    have hloose : Utf8.isLoose c = false := by
      simp only [Utf8.isLoose, Bool.and_eq_false_iff, decide_eq_false_iff_not]
      omega
    exact ⟨hs, hloose, hl.2⟩
  refine ⟨fun hm => ⟨.inl (hc _ hm).1, (hc _ hm).2.2⟩, Utf8.settled_eq_self ?_,
    h.ne_of_not_isLetter rfl⟩
  rw [List.any_eq_false]
  intro c hm
  simp [(hc c hm).2.1]

theorem isName_of_all {name : Text} (h : name.all fun c => !c.isSurrogate && c ≠ 0)
    (hs : Utf8.settled name = name) (hu : name ≠ Path.up) : IsName name := by
  refine ⟨?_, hs, hu⟩
  intro c hm
  have hc := List.all_eq_true.mp h c hm
  simp only [Bool.and_eq_true, Bool.not_eq_true', decide_eq_true_eq] at hc
  exact ⟨.inl hc.1, hc.2⟩

theorem isName_scope : IsName scope := isName_of_all (by decide) rfl (by decide)

theorem isName_name (kind : CatalogKind) : IsName kind.name :=
  isName_of_all (by cases kind <;> rfl) (by cases kind <;> rfl) (by cases kind <;> decide)

section Places
variable (root : Path)

theorem place_eq {path : Text} {parts : List Text} (h : Path.ofText path = ⟨.relative, parts⟩) :
    Output.place root path = ⟨root.anchor, root.parts ++ parts⟩ := by
  rw [Output.place, h]
  rfl

theorem place_scope : Output.place root scope = root.child scope := place_eq root rfl

theorem place_fullName (kind : CatalogKind) :
    Output.place root (fullName kind.name) = (Output.place root scope).child kind.name := by
  rw [place_eq root (ofText_fullName kind), place_scope]
  simp [Path.child]

theorem place_pathOf (kind : CatalogKind) {name : Text} (h : IsFileName name) :
    Output.place root (pathOf kind.name name) =
      (Output.place root (fullName kind.name)).child name := by
  have hp : Path.ofText (pathOf kind.name name) = ⟨.relative, [scope, kind.name] ++ [name]⟩ := by
    rw [ofText_pathOf kind.name h, ofText_fullName kind, Path.child]
  rw [place_eq root hp, place_eq root (ofText_fullName kind)]
  simp [Path.child]

end Places

/-- A directory holds what a store holds under the paths of a package, and else what it held
before. -/
def Mirrors (package : Text) (dir : Location) (before : FileTree) (held : List (Text × Text))
    (tree : FileTree) : Prop :=
  ∀ name, tree.get? (dir ++ [name]) =
    ((held.lookup (pathOf package name)).map fun content => .file (bytesOf content)).or
      (before.get? (dir ++ [name]))

section Mirror
variable {package : Text} {before : FileTree} {held : List (Text × Text)}

theorem mirrors_nil (package : Text) (dir : Location) (tree : FileTree) :
    Mirrors package dir tree [] tree :=
  fun _ => rfl

/-- Storing a file and writing it keep a store and a directory alike. -/
theorem Mirrors.writeText {name : Text} (hm : Mirrors package dir before held tree)
    (h : tree.LeadsTo p dir) (hn : IsName name) (ho : tree.Opens p dir name) (content : Text) :
    Mirrors package dir before (Association.put (pathOf package name) content held)
      (tree.writeText (p.child name) content).2 := by
  intro other
  rw [(writeText_child_of_opens h hn ho content).2]
  by_cases hname : other = name
  · rw [hname, if_pos rfl, Association.lookup_put]
    rfl
  · have hplace : dir ++ [other] ≠ dir ++ [name] := by simpa using hname
    rw [if_neg hplace, Association.lookup_put_of_ne fun hp => hname (pathOf_inj.mp hp)]
    exact hm other

theorem Mirrors.writeFiles (hm : Mirrors package dir before held tree) (h : tree.LeadsTo p dir)
    (ho : ∀ f ∈ output, ∃ name, IsName name ∧ f.path = pathOf package name ∧
      Output.place root f.path = p.child name)
    (hok : (writeFiles root output tree).1 = .ok ()) :
    Mirrors package dir before (stored output held) (writeFiles root output tree).2 := by
  induction output generalizing tree held with
  | nil => exact hm
  | cons f rest ih =>
    obtain ⟨name, hn, hpath, hplace⟩ := ho f List.mem_cons_self
    rw [Package.writeFiles, hplace] at hok ⊢
    by_cases hopens : tree.Opens p dir name
    · have hnext := hm.writeText h hn hopens f.content
      have hleads := (sameBut_writeText h hn f.content).leadsTo_iff.mp h
      rw [← hpath] at hnext
      rcases hw : tree.writeText (p.child name) f.content with ⟨answer, next⟩
      rw [hw] at hok hnext hleads
      cases answer with
      | error e => cases hok
      | ok done => exact ih hnext hleads (fun g hg => ho g (List.mem_cons_of_mem _ hg)) hok
    · rw [writeText_child_of_not_opens h hn hopens] at hok
      cases hok

end Mirror

def IsCatalogName (name : Text) : Prop := ∃ kind : CatalogKind, name = kind.fileName

theorem liesIn_files (root : Path) (kind : CatalogKind) {units : List TypeUnit}
    (hi : ∀ u ∈ units, WellFormed u.identifier) :
    LiesIn root (Output.place root (fullName kind.name)) (¬ IsCatalogName ·)
      (files kind.name units) := by
  intro f hf
  obtain ⟨name, hn, hp⟩ := exists_name_of_mem_files hf
  have hname := isFileName_of_mem_fileNames hi hn
  refine ⟨name, ?_, hname.isName, ?_⟩
  · rintro ⟨other, rfl⟩
    exact catalogName_not_mem_fileNames hi other hn
  · rw [hp]
    exact place_pathOf root kind hname

structure Ready (tree : FileTree) (root : Path) (top : Location) : Prop where
  scope : tree.LeadsTo (Output.place root scope) top
  package (kind : CatalogKind) : tree.LeadsTo (Output.place root (fullName kind.name))
    (top ++ [kind.name])

theorem Ready.of_sameBut {changed : Location → Prop} {tree other : FileTree} {top : Location}
    (h : Ready tree root top) (hs : SameBut changed tree other) : Ready other root top :=
  ⟨hs.leadsTo_iff.mp h.scope, fun kind => hs.leadsTo_iff.mp (h.package kind)⟩

/-- A package whose files could all be written is on disk as it would be in a store. -/
theorem mirrors_files {tree : FileTree} {top : Location} (h : Ready tree root top)
    (kind : CatalogKind) {units : List TypeUnit} (hi : ∀ u ∈ units, WellFormed u.identifier)
    (hok : (writeFiles root (files kind.name units) tree).1 = .ok ()) :
    Mirrors kind.name (top ++ [kind.name]) tree (stored (files kind.name units) [])
      (writeFiles root (files kind.name units) tree).2 := by
  refine (mirrors_nil kind.name _ tree).writeFiles (h.package kind) ?_ hok
  intro f hf
  obtain ⟨name, hn, hp⟩ := exists_name_of_mem_files hf
  have hname := isFileName_of_mem_fileNames hi hn
  exact ⟨name, hname.isName, hp, hp ▸ place_pathOf root kind hname⟩

section Emission
variable {top : Location} {kind : CatalogKind} {w : World}

theorem result_ensureDirectory_disk (path : Text) (w : World) :
    (Output.ensureDirectory path (.disk root)).result w =
      ((w.files.makeDirectories (Output.place root path)).1,
        { w with files := (w.files.makeDirectories (Output.place root path)).2 }) := rfl

theorem result_prepare_disk (h : Ready w.files root top) (kind : CatalogKind) :
    (prepare (.disk root) kind.name).result w = (.ok (), w) := by
  rw [prepare, Run.result_bind, result_ensureDirectory_disk, makeDirectories_of_leadsTo h.scope]
  simp only
  rw [result_ensureDirectory_disk, makeDirectories_of_leadsTo (h.package kind)]

theorem result_emit_disk (h : Ready w.files root top) (kind : CatalogKind) (units : List TypeUnit) :
    ∃ log, (emit (.disk root) kind.name units).result w =
      ((writeFiles root (files kind.name units) w.files).1.map fun _ => units.length,
        { w with files := (writeFiles root (files kind.name units) w.files).2, log := log }) := by
  obtain ⟨log, hw⟩ := result_writeAll_disk root (files kind.name units) w
  rw [emit, Run.result_bind, result_prepare_disk h]
  simp only
  rw [Run.result_bind, hw]
  rcases writeFiles root (files kind.name units) w.files with ⟨answer, after⟩
  cases answer with
  | error e => exact ⟨log, rfl⟩
  | ok done =>
    cases units with
    | nil => exact ⟨log, rfl⟩
    | cons u units => exact ⟨_, rfl⟩

theorem grows_of_prepare (root : Path) (package : Text) (w : World) :
    Grows w.files ((prepare (.disk root) package).result w).2.files := by
  have hs := grows_makeDirectories w.files (Output.place root Package.scope)
  rw [prepare, Run.result_bind, result_ensureDirectory_disk]
  rcases hm : w.files.makeDirectories (Output.place root Package.scope) with ⟨answer, made⟩
  rw [hm] at hs
  cases answer with
  | error e => exact hs
  | ok done => exact hs.trans (grows_makeDirectories made (Output.place root (fullName package)))

theorem keeps_of_ensureDirectory {path : Text} {next : World}
    (h : (Output.ensureDirectory path (.disk root)).result w = (.ok (), next)) :
    Keeps w.files next.files ∧ ∃ place, next.files.LeadsTo (Output.place root path) place := by
  rw [result_ensureDirectory_disk] at h
  rcases hm : w.files.makeDirectories (Output.place root path) with ⟨answer, made⟩
  rw [hm] at h
  cases h
  exact makeParents_ok hm

/-- Once a package was prepared, its directory and that of all packages are there. -/
theorem leadsTo_of_prepare {next : World}
    (h : (prepare (.disk root) kind.name).result w = (.ok (), next)) :
    Keeps w.files next.files ∧ ∃ top, next.files.LeadsTo (Output.place root Package.scope) top ∧
      next.files.LeadsTo (Output.place root (fullName kind.name)) (top ++ [kind.name]) := by
  obtain ⟨_, middle, hs, hp⟩ := Run.result_bind_eq_ok h
  obtain ⟨hk, top, ht⟩ := keeps_of_ensureDirectory hs
  obtain ⟨hk', dir, hd⟩ := keeps_of_ensureDirectory hp
  have htop := hk'.leadsTo ht
  have hdir : dir = top ++ [kind.name] := by
    have hr := hd.1
    rw [place_fullName] at hr
    exact eq_of_resolve_child htop (isName_name kind).settled (isName_name kind).ne_up hr
  rw [hdir] at hd
  exact ⟨hk.trans hk', top, htop, hd⟩

theorem get?_of_ensureDirectory {dir : Location} {name path : Text} {next : World}
    (hd : w.files.LeadsTo p dir) (hs : Utf8.settled name = name) (hu : name ≠ Path.up)
    (hpath : Output.place root path = p.child name)
    (h : (Output.ensureDirectory path (.disk root)).result w = (.ok (), next)) {place : Location}
    (hp : place ≠ dir ++ [name]) : next.files.get? place = w.files.get? place := by
  rw [result_ensureDirectory_disk, hpath] at h
  rcases hm : w.files.makeDirectories (p.child name) with ⟨answer, made⟩
  rw [hm] at h
  cases h
  rcases makeDirectories_child hd hs hu hm with rfl | rfl
  · rfl
  · exact get?_put_ne _ hp _

/-- A package that is prepared in a directory adds at most its own directory and that of all
packages. -/
theorem get?_of_prepare {base : Location} {next : World} (hr : w.files.LeadsTo root base)
    (h : (prepare (.disk root) kind.name).result w = (.ok (), next)) {place : Location}
    (hs : place ≠ base ++ [Package.scope]) (hk : place ≠ base ++ [Package.scope] ++ [kind.name]) :
    next.files.get? place = w.files.get? place := by
  obtain ⟨_, middle, hscope, hkind⟩ := Run.result_bind_eq_ok h
  obtain ⟨hkeeps, top, htop⟩ := keeps_of_ensureDirectory hscope
  rw [place_scope] at htop
  rw [eq_of_resolve_child (hkeeps.leadsTo hr) rfl (by decide) htop.1, ← place_scope] at htop
  rw [get?_of_ensureDirectory htop (isName_name kind).settled (isName_name kind).ne_up
    (place_fullName root kind)
    hkind hk]
  exact get?_of_ensureDirectory hr rfl (by decide) (place_scope root) hscope hs

end Emission
end CatalogTypes.Package
