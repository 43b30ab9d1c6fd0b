import Acceptance.Catalog
import Acceptance.Proofs.Message.RoundTrip

/-!
# Catalogs read back

A catalog that is written is read back as it was.

* `Catalog.Portable`: the catalogs of which that is so.

Results:
* `Stream.read_nodeOf`, `Entry.read_nodeOf`, `read_nodeOf`: streams, entries and catalogs are read from
  their objects.
* `ofText_render`: a catalog is read from its text.
-/

namespace Acceptance.Catalog

open Json (nodeOf)
open Schema (Distinct Field)

/-- A catalog that can be read back: the floating-point numbers in its schemas can, the objects there
are in order, as those made by `Json.ofMembers` are, and no more arrays and objects stand inside one
another than a reader enters. -/
structure Portable (c : Catalog) : Prop where
  stable : c.toJson.Stable
  depth_le : c.toJson.depth ≤ Json.maxDepth
  ordered : ∀ e ∈ c.streams, e.stream.schema.Ordered

theorem lookup_syncModeName (m : SyncMode) : SyncMode.table.lookup m.name = some m := by
  cases m <;> rfl

theorem lookup_writeModeName (m : WriteMode) : WriteMode.table.lookup m.name = some m := by
  cases m <;> rfl

variable {room : Nat}

/-- A stream is read from its object. -/
theorem Stream.read_nodeOf {s : Stream} (ho : s.schema.Ordered) (hd : s.toJson.depth ≤ room) :
    Stream.read (nodeOf room s.toJson) = .ok s := by
  refine Json.record_nodeOf (by simp [Distinct, Stream.fields, Field.of]) hd fun room' hdepth => ?_
  refine Json.supplied_required rfl ?_
  refine Message.supplied_member? rfl (fun _ _ h => Json.noConfusion h) (fun _ _ => rfl) ?_
  refine Json.supplied_required
    (Json.value_outlineOf _ ho (hdepth ("json_schema", s.schema) (by simp))) ?_
  refine .given List.mem_cons_self (bind_eq_ok_iff.mpr ⟨s.supported, ?_, rfl⟩) .done
  refine Json.list_nodeOf (hdepth ("supported_sync_modes", _) (by simp)) fun _ m _ _ => ?_
  exact Json.choice_nodeOf (lookup_syncModeName m)

/-- An entry is read from its object. -/
theorem Entry.read_nodeOf {e : Entry} (ho : e.stream.schema.Ordered) (hd : e.toJson.depth ≤ room) :
    Entry.read (nodeOf room e.toJson) = .ok e := by
  refine Json.record_nodeOf (by simp [Distinct, Entry.fields, Field.of]) hd fun room' hdepth => ?_
  refine Json.supplied_required
    (Stream.read_nodeOf ho (hdepth ("stream", e.stream.toJson) (by simp))) ?_
  refine Json.supplied_required (Json.choice_nodeOf (lookup_syncModeName _)) ?_
  exact Json.supplied_required (Json.choice_nodeOf (lookup_writeModeName _)) .done

/-- A catalog is read from its object. -/
theorem read_nodeOf {c : Catalog} (h : c.Portable) :
    read (nodeOf Json.maxDepth c.toJson) = .ok c := by
  refine Json.record_nodeOf (by simp [Distinct, fields, Field.of]) h.depth_le fun room hdepth => ?_
  refine Json.supplied_required (Json.list_nodeOf ?_ fun _ e he hd => ?_) .done
  · exact hdepth ("streams", _) (by simp)
  · exact Entry.read_nodeOf (h.ordered e he) hd

/-- **A catalog is read back from its text.** -/
theorem ofText_render {c : Catalog} (h : c.Portable) : ofText c.toJson.render.toList = .ok c := by
  rw [ofText, Json.render, String.toList_ofList, Json.readText_text h.stable (read_nodeOf h)]
  rfl

end Acceptance.Catalog
