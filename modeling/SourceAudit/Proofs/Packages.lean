import Mathlib
import SourceAudit.Discovery.FileTree

/-! The way up through packages. Each folder is written shorter than the one below it, unless it is written with slashes
only. -/

namespace SourceAudit

open List

def IsPackage (isFile : String → Bool) (folder : String) : Prop :=
  folder ∉ ["/", ".", ""] ∧ isFile (Path.join folder "__init__.py")

def OnlySlashes (folder : String) : Prop := ∀ c ∈ folder.toList, c = '/'

/-- The names of all packages on the way up from a folder, the outermost first, up to a folder that is none. -/
inductive Packages (isFile : String → Bool) : String → List String → Prop
  | none {folder} (last : ¬ IsPackage isFile folder) : Packages isFile folder []
  | up {folder names} (package : IsPackage isFile folder) (above : Packages isFile (Path.split folder).1 names) :
    Packages isFile folder (names ++ [(Path.split folder).2])

/-- The way up through packages comes to one that is written with slashes only. -/
inductive Stuck (isFile : String → Bool) : String → Prop
  | here {folder} (package : IsPackage isFile folder) (slashes : OnlySlashes folder) : Stuck isFile folder
  | up {folder} (package : IsPackage isFile folder) (above : Stuck isFile (Path.split folder).1) : Stuck isFile folder

variable {isFile : String → Bool} {folder : String} {names : List String} {fuel : Nat}

theorem onlySlashes_iff : OnlySlashes folder ↔ ∀ c ∈ folder.toList.reverse, c = '/' := by
  simp only [OnlySlashes, mem_reverse]

theorem split_slashes (slashes : OnlySlashes folder) : Path.split folder = (folder, "") := by
  rw [onlySlashes_iff] at slashes
  have bare : folder.toList.reverse.dropWhile (· == '/') = [] := by simpa [dropWhile_eq_nil_iff] using slashes
  have file : folder.toList.reverse.takeWhile (· != '/') = [] := by
    cases chars : folder.toList.reverse with
    | nil => rfl
    | cons c cs =>
      cases slashes c (chars ▸ mem_cons_self)
      rfl
  have kept := takeWhile_append_dropWhile (p := (· != '/')) (l := folder.toList.reverse)
  rw [file, nil_append] at kept
  simp [Path.split, file, kept, bare]

theorem length_split_lt (mixed : ¬ OnlySlashes folder) : (Path.split folder).1.length < folder.length := by
  rw [onlySlashes_iff] at mixed
  rw [← String.length_toList (s := folder), ← length_reverse]
  simp only [Path.split, String.length_ofList]
  generalize folder.toList.reverse = chars at mixed ⊢
  rw [length_reverse]
  cases chars with
  | nil => exact absurd (fun _ => nofun) mixed
  | cons c cs =>
    by_cases slash : c = '/'
    · subst slash
      have bound := (dropWhile_sublist (· == '/') (l := cs)).length_le
      have bare : cs.dropWhile (· == '/') ≠ [] := by simpa [dropWhile_eq_nil_iff] using mixed
      simp [bare]
      omega
    · have head := (dropWhile_sublist (· != '/') (l := cs)).length_le
      have bound := (dropWhile_sublist (· == '/') (l := cs.dropWhile (· != '/'))).length_le
      simp only [dropWhile_cons, bne_iff_ne, ne_eq, slash, not_false_eq_true, if_true, length_cons]
      split <;> omega

theorem packagesAround_of_package (package : IsPackage isFile folder) : packagesAround isFile (fuel + 1) folder names =
    packagesAround isFile fuel (Path.split folder).1 ((Path.split folder).2 :: names) := by
  rw [packagesAround, if_neg (by simpa using package.1), if_pos package.2]

theorem Packages.found (packages : Packages isFile folder names) {behind : List String} (deep : names.length < fuel) :
    packagesAround isFile fuel folder behind = .ok (names ++ behind) := by
  induction packages generalizing fuel behind with
  | none last =>
    obtain ⟨fuel, rfl⟩ := Nat.exists_eq_add_of_lt deep
    rw [packagesAround]
    split
    · rfl
    · rename_i go
      exact if_neg fun file => last ⟨by simpa using go, file⟩
  | up package _ ih =>
    obtain ⟨fuel, rfl⟩ := Nat.exists_eq_succ_of_ne_zero (Nat.ne_zero_of_lt deep)
    rw [length_append, length_singleton] at deep
    rw [packagesAround_of_package package, ih (Nat.lt_of_succ_lt_succ deep), append_assoc]
    rfl

theorem Stuck.endless (stuck : Stuck isFile folder) : packagesAround isFile fuel folder names = .error .endless := by
  induction fuel generalizing folder names with
  | zero => rfl
  | succ fuel ih =>
    cases stuck with
    | here package slashes =>
      rw [packagesAround_of_package package, split_slashes slashes]
      exact ih (.here package slashes)
    | up package above =>
      rw [packagesAround_of_package package]
      exact ih above

theorem exists_packages (isFile : String → Bool) (folder : String) (free : ¬ Stuck isFile folder) :
    ∃ names, Packages isFile folder names ∧ names.length ≤ folder.length := by
  by_cases package : IsPackage isFile folder
  · have shorter := length_split_lt fun slashes => free (.here package slashes)
    obtain ⟨names, above, _⟩ := exists_packages isFile (Path.split folder).1 fun above => free (.up package above)
    refine ⟨_, .up package above, ?_⟩
    rw [length_append, length_singleton]
    omega
  · exact ⟨[], .none package, Nat.zero_le _⟩
termination_by folder.length

/-- A path with a folder and a file is named by the file behind all packages on the way up, as far as they follow each
other, unless one is written with slashes only; then the way has no end. -/
theorem moduleName_of_split (isFile : String → Bool) {path head tail : String} (parts : Path.split path = (head, tail))
    (given : head ≠ "" ∧ tail ≠ "") :
    (¬ Stuck isFile head → ∃ names, Packages isFile head names ∧
      moduleName isFile path = .ok (joinStrings "." (names ++ [Path.stem tail]))) ∧
    (Stuck isFile head → moduleName isFile path = .error .endless ∧
      ∀ fuel names, packagesAround isFile fuel head names = .error .endless) := by
  have step : moduleName isFile path =
      joinStrings "." <$> packagesAround isFile (path.length + 1) head [Path.stem tail] := by
    simp [moduleName, parts, given.1, given.2]
  constructor
  · intro free
    obtain ⟨names, packages, _⟩ := exists_packages isFile head free
    have shorter : head.length < path.length := by
      have mixed : ¬ OnlySlashes path := fun slashes => by
        rw [split_slashes slashes, Prod.mk.injEq] at parts
        exact given.2 parts.2.symm
      simpa only [parts] using length_split_lt mixed
    refine ⟨names, packages, ?_⟩
    rw [step, packages.found (by omega)]
    rfl
  · intro stuck
    refine ⟨?_, fun fuel names => stuck.endless⟩
    rw [step, stuck.endless]
    rfl

theorem moduleName_of_split_pair : ∃ names, Packages (· == "/a/__init__.py") "/a" names ∧
    moduleName (· == "/a/__init__.py") "/a/b.py" = .ok (joinStrings "." (names ++ [Path.stem "b.py"])) := by
  refine (moduleName_of_split _ (by decide +kernel) (by decide)).1 ?_
  rintro (⟨-, slashes⟩ | ⟨-, above⟩)
  · exact absurd (slashes 'a' (by decide)) (by decide)
  · have root : ¬ IsPackage (· == "/a/__init__.py") (Path.split "/a").1 := fun package =>
      absurd package.1 (by decide +kernel)
    cases above with
    | here package => exact root package
    | up package => exact root package

/-- The root is a package, and written with two slashes it stands above itself. -/
theorem moduleName_root_endless : let tree : FileTree := { files := [(["__init__.py"], [])], folders := [[]] }
    moduleName tree.isFile "//a.py" = .error .endless ∧
      ∀ fuel names, packagesAround tree.isFile fuel "//" names = .error .endless := by
  intro tree
  have stuck : Stuck tree.isFile "//" := .here ⟨by decide, by decide +kernel⟩ (by simp [OnlySlashes])
  exact ⟨by decide +kernel, fun fuel names => stuck.endless⟩

end SourceAudit
