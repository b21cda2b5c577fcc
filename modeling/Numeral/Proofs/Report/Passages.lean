import Mathlib.Data.List.Chain
import Numeral.Proofs.Text.Columns

set_option autoImplicit false

namespace Numeral

namespace Passage

variable {files : List SourceFile}

structure Own (files : List SourceFile) (passage : Passage) : Prop where
  stored : files[passage.index]? = some passage.file
  labels_eq : ∀ label ∈ passage.labels, label.file = passage.index

theorem add_own {label : Label} {file : SourceFile} {passages : List Passage}
    (known : files[label.file]? = some file) (own : ∀ passage ∈ passages, passage.Own files) :
    (add label file passages).flatMap Passage.labels =
        label :: passages.flatMap Passage.labels ∧
      ∀ passage ∈ add label file passages, passage.Own files := by
  have single : Own files ⟨label.file, file, [label]⟩ := ⟨known, by simp⟩
  cases passages with
  | nil => exact ⟨rfl, by simpa [add] using single⟩
  | cons passage rest =>
    obtain ⟨first, others⟩ := List.forall_mem_cons.1 own
    rw [add]
    split
    next same =>
      refine ⟨rfl, List.forall_mem_cons.2 ⟨⟨first.stored, ?_⟩, others⟩⟩
      exact List.forall_mem_cons.2 ⟨same.symm, first.labels_eq⟩
    next => exact ⟨rfl, List.forall_mem_cons.2 ⟨single, own⟩⟩

theorem gather_cons {label : Label} {rest : List Label} {passages : List Passage}
    (made : gather files (label :: rest) = .ok passages) :
    ∃ file others, files[label.file]? = some file ∧ gather files rest = .ok others ∧
      passages = add label file others := by
  rw [gather] at made
  split at made
  next => simp at made
  next file stored =>
    cases later : gather files rest with
    | error fault => simp [later, Except.map] at made
    | ok others =>
      rw [later] at made
      cases made
      exact ⟨file, others, stored, rfl, rfl⟩

theorem gather_own {labels : List Label} {passages : List Passage}
    (made : gather files labels = .ok passages) :
    passages.flatMap Passage.labels = labels ∧ ∀ passage ∈ passages, passage.Own files := by
  induction labels generalizing passages with
  | nil =>
    cases made
    exact ⟨rfl, by simp⟩
  | cons label rest ih =>
    obtain ⟨file, others, stored, later, rfl⟩ := gather_cons made
    obtain ⟨flat, own⟩ := ih later
    obtain ⟨longer, still⟩ := add_own stored own
    exact ⟨by rw [longer, flat], still⟩

theorem exists_gather {labels : List Label}
    (known : ∀ label ∈ labels, ∃ file, files[label.file]? = some file) :
    ∃ passages, gather files labels = .ok passages ∧ passages.flatMap Passage.labels = labels ∧
      ∀ passage ∈ passages, passage.Own files := by
  suffices made : ∃ passages, gather files labels = .ok passages by
    obtain ⟨passages, made⟩ := made
    exact ⟨passages, made, gather_own made⟩
  induction labels with
  | nil => exact ⟨[], rfl⟩
  | cons label rest ih =>
    obtain ⟨⟨file, stored⟩, others⟩ := List.forall_mem_cons.1 known
    obtain ⟨passages, made⟩ := ih others
    exact ⟨add label file passages, by rw [gather, stored, made]; rfl⟩

theorem add_parted {label : Label} {file : SourceFile} {passages : List Passage}
    (nonempty : ∀ passage ∈ passages, passage.labels ≠ [])
    (parted : passages.IsChain fun a b => a.index ≠ b.index) :
    (∀ passage ∈ add label file passages, passage.labels ≠ []) ∧
      (add label file passages).IsChain fun a b => a.index ≠ b.index := by
  cases passages with
  | nil => exact ⟨by simp [add], .singleton _⟩
  | cons passage rest =>
    rw [add]
    split
    next same =>
      refine ⟨List.forall_mem_cons.2 ⟨by simp, (List.forall_mem_cons.1 nonempty).2⟩, ?_⟩
      cases rest with
      | nil => exact .singleton _
      | cons next rest => simpa using parted
    next other =>
      exact ⟨List.forall_mem_cons.2 ⟨by simp, nonempty⟩, .cons_cons (Ne.symm other) parted⟩

theorem gather_parted {labels : List Label} {passages : List Passage}
    (made : gather files labels = .ok passages) :
    (∀ passage ∈ passages, passage.labels ≠ []) ∧
      passages.IsChain fun a b => a.index ≠ b.index := by
  induction labels generalizing passages with
  | nil =>
    cases made
    exact ⟨by simp, .nil⟩
  | cons label rest ih =>
    obtain ⟨file, others, -, later, rfl⟩ := gather_cons made
    obtain ⟨nonempty, parted⟩ := ih later
    exact add_parted nonempty parted

theorem crop_source {passage : Passage} {slice : Slice} (made : passage.crop = .ok slice) :
    slice.path = passage.file.path ∧ ∃ skipped, passage.file.text = skipped ++ slice.source := by
  unfold crop at made
  split at made
  next => simp at made
  next front back cut =>
    cases made
    obtain ⟨skipped, split⟩ := Text.exists_skipped front
    refine ⟨rfl, skipped, ?_⟩
    rw [← List.append_assoc, ← split]
    exact (Text.eq_of_splitAt? cut).1

theorem crop_fault {passage : Passage} {fault : Fault} (failed : passage.crop = .error fault) :
    fault = .badSlice := by
  unfold crop at failed
  split at failed
  next =>
    cases failed
    rfl
  next => simp at failed

end Passage

end Numeral
