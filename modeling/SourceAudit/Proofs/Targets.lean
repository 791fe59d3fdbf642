import SourceAudit.Discovery.Targets
import SourceAudit.Proofs.Answers

/-! The names of the files that are found: none comes twice or is one of the program's own. -/

namespace SourceAudit

open Answers List

theorem Path.slash_mem_join {head tail : String} (given : head ≠ "") : '/' ∈ (join head tail).toList := by
  unfold join
  split
  · rename_i absolute
    rw [isAbsolute, String.startsWith_string_iff] at absolute
    exact absolute.mem (by simp)
  · split
    · rename_i ended
      have ended : head.endsWith "/" := by simpa [given] using ended
      rw [String.endsWith_eq_endsWith_toSlice, String.Slice.endsWith_string_iff] at ended
      rw [String.toList_append, mem_append]
      exact .inl (by simpa using ended.mem (by simp))
    · simp [String.toList_append]

namespace FileTree

variable {t : FileTree} {path : String} {entry : String × List String}

theorem path_of_mem_walkFrom {fuel : Nat} {p : Place} (given : path ≠ "") (mem : entry ∈ t.walkFrom fuel path p) :
    entry.1 ≠ "" := by
  induction fuel generalizing path p with
  | zero => simp [walkFrom] at mem
  | succ fuel ih =>
    rw [walkFrom, mem_cons, mem_flatMap] at mem
    rcases mem with rfl | ⟨name, -, deeper⟩
    · exact given
    · refine ih ?_ deeper
      intro none
      have slash : '/' ∈ (Path.join path name).toList := Path.slash_mem_join given
      simp [none] at slash

theorem path_of_mem_walk (mem : entry ∈ t.walk path) : entry.1 ≠ "" := by
  unfold walk at mem
  split at mem
  · rename_i p found
    split at mem
    · refine path_of_mem_walkFrom ?_ mem
      rintro rfl
      simp [place] at found
    · simp at mem
  · simp at mem

end FileTree

namespace Targets

def IsFileName (name : String) : Prop := name = "-" ∨ '/' ∈ name.toList

variable {t : FileTree} {include_ exclude : List Value} {recursive : Bool}

theorem isFileName_below {folder : String} {found : Targets}
    (done : below t folder include_ exclude = .ok found) : ∀ f ∈ found.files, IsFileName f := by
  simp only [below, bind_eq_ok, pure_eq_ok] at done
  obtain ⟨_, looked, rfl⟩ := done
  intro f mem
  obtain ⟨j, kept, rfl⟩ := mem_map.mp mem
  obtain ⟨_, there, judging⟩ := (mem_mapM_iff looked).mp (mem_of_mem_filter kept)
  simp only [bind_eq_ok, pure_eq_ok] at judging
  obtain ⟨_, -, rfl⟩ := judging
  obtain ⟨_, walked, inside⟩ := mem_flatMap.mp there
  obtain ⟨_, -, rfl⟩ := mem_map.mp inside
  exact .inr (Path.slash_mem_join (FileTree.path_of_mem_walk walked))

theorem isFileName_scannedName (target : String) : IsFileName (scannedName target) := by
  unfold scannedName
  split
  · rename_i hyphen
    exact .inl (by simpa using hyphen)
  · exact .inr (Path.slash_mem_join (by decide))

theorem isFileName_ofTarget {target : String} {part : Targets × Log}
    (done : ofTarget t include_ exclude recursive target = .ok part) : ∀ f ∈ part.1.files, IsFileName f := by
  unfold ofTarget at done
  split at done
  · split at done
    · simp only [bind_eq_ok, pure_eq_ok] at done
      obtain ⟨_, searched, rfl⟩ := done
      exact isFileName_below searched
    · rw [pure_eq_ok] at done
      simp [← done]
  · rw [bind_eq_ok] at done
    obtain ⟨_, -, done⟩ := done
    split at done
    · rw [pure_eq_ok] at done
      simp [← done, isFileName_scannedName]
    · rw [pure_eq_ok] at done
      simp [← done]

theorem files_discover {targets : List String} {found : Targets} {log : Log}
    (done : discover t include_ exclude recursive targets = .ok (found, log)) :
    found.files.Nodup ∧ ∀ f ∈ found.files, IsFileName f := by
  simp only [discover, bind_eq_ok, pure_eq_ok, Prod.mk.injEq] at done
  obtain ⟨_, searched, rfl, -⟩ := done
  refine ⟨Lists.nodup_eraseDups _, ?_⟩
  intro f mem
  rw [distinct, mem_eraseDups, FileTree.sorted, mem_mergeSort] at mem
  obtain ⟨_, brought, here⟩ := mem_flatMap.mp mem
  obtain ⟨_, -, search⟩ := (mem_mapM_iff searched).mp brought
  exact isFileName_ofTarget search f here

end Targets

end SourceAudit
