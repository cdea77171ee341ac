import Mathlib.Data.List.Basic
import MeshExport.Manifest.ServiceExport

/-! What is written is read again as it was. A field is written exactly if it is set, and never as null,
so that an unset field and one set to the empty text, or an unset status and an empty one, stay apart.
Hence writing what was read gives a normal form. -/

namespace MeshExport

namespace Json

def fields : Json → List (String × Json)
  | obj fields => fields
  | _ => []

/-- An object written of fields with different names has those of them that are set. -/
theorem field?_ofFields {fields : List (String × Option Json)} (hd : (fields.map Prod.fst).Nodup)
    (name : String) : field? (ofFields fields).fields name = (fields.lookup name).join := by
  show field? (fields.filterMap fun f => f.2.map (f.1, ·)) name = _
  induction fields with
  | nil => rfl
  | cons f fs ih =>
    obtain ⟨key, value⟩ := f
    rw [List.map_cons, List.nodup_cons] at hd
    have hfs := ih hd.2
    rw [field?] at hfs ⊢
    by_cases hk : name = key
    · subst hk
      cases value with
      | none =>
        -- no later field has the name
        have hnone : fs.lookup name = none := by
          rw [List.lookup_eq_none_iff]
          intro f hf
          rw [bne_iff_ne]
          exact fun he => hd.1 (List.mem_map.mpr ⟨f, hf, he.symm⟩)
        rw [hnone] at hfs
        simpa using hfs
      | some v => simp
    · have hb : (name == key) = false := beq_false_of_ne hk
      cases value with
      | none => simpa [List.lookup_cons, hb] using hfs
      | some v => simpa [List.lookup_cons, hb] using hfs

end Json

/-- `decode` reads what `write` has written, which is never null. -/
structure Decoder.Inverts {α : Type} (decode : Decoder α) (write : α → Json) : Prop where
  read : ∀ a, decode (write a) = .ok a
  set : ∀ a, write a ≠ .null

namespace Decoder

variable {α : Type} {decode : Decoder α} {write : α → Json}

theorem inverts_string : string.Inverts Json.str := ⟨fun _ => rfl, fun _ h => by cases h⟩

theorem inverts_int64 : int64.Inverts fun n => .int n.toInt where
  read n := by
    have hlow : Int64.minValue.toInt ≤ n.toInt := Int64.minValue_le_toInt n
    have hhigh : n.toInt ≤ Int64.maxValue.toInt := Int64.toInt_le n
    rw [int64, integer, if_pos ⟨hlow, hhigh⟩]
    exact congrArg Except.ok (Int64.ofInt_toInt n)
  set _ h := by cases h

theorem mapM_map (h : decode.Inverts write) (as : List α) : (as.map write).mapM decode = .ok as := by
  induction as with
  | nil => rfl
  | cons a as ih =>
    rw [List.map_cons, List.mapM_cons, h.read, ih]
    rfl

theorem Inverts.list (h : decode.Inverts write) : (list decode).Inverts fun as => .arr (as.map write) where
  read as := mapM_map h as
  set _ hn := by cases hn

theorem foldl_insert_toList (m : LabelMap) :
    m.toList.foldl (fun m l => m.insert l.1 l.2) (∅ : LabelMap) = m := by
  rw [← Std.ExtTreeMap.insertMany_list_eq_foldl]
  refine Std.ExtTreeMap.ext_getElem? fun k => ?_
  cases hk : m[k]? with
  | some v =>
    exact Std.ExtTreeMap.getElem?_insertMany_list_of_mem Std.compare_self
      Std.ExtTreeMap.distinct_keys_toList (Std.ExtTreeMap.mem_toList_iff_getElem?_eq_some.mpr hk)
  | none =>
    have hn : (m.toList.map Prod.fst).contains k = false := by
      rw [Bool.eq_false_iff, Ne, List.contains_iff_mem]
      rintro hm
      obtain ⟨⟨_, v⟩, hv, rfl⟩ := List.mem_map.mp hm
      rw [Std.ExtTreeMap.mem_toList_iff_getElem?_eq_some, hk] at hv
      cases hv
    rw [Std.ExtTreeMap.getElem?_insertMany_list_of_contains_eq_false hn]
    rfl

theorem inverts_labels : labels.Inverts ObjectMeta.labelsJson where
  read m := by
    have hfold (ls : List (String × String)) (acc : LabelMap) :
        (ls.map fun l => (l.1, Json.str l.2)).foldlM
            (fun (m : LabelMap) f => return m.insert f.1 (← string f.2)) acc =
          Except.ok (ε := DecodeError) (ls.foldl (fun m l => m.insert l.1 l.2) acc) := by
      induction ls generalizing acc with
      | nil => rfl
      | cons l ls ih => exact ih (acc.insert l.1 l.2)
    rw [ObjectMeta.labelsJson, labels, hfold, foldl_insert_toList]
  set _ h := by cases h

variable {fields : List (String × Option Json)} {name : String} {value : Option α}

theorem optional_written (h : decode.Inverts write) (hd : (fields.map Prod.fst).Nodup)
    (hf : fields.lookup name = some (value.map write)) :
    optional (Json.ofFields fields).fields name decode = .ok value := by
  rw [optional, Json.field?_ofFields hd, hf, Option.join_some]
  cases value with
  | none => rfl
  | some a =>
    show nullable decode (write a) = _
    have hread : some <$> decode (write a) = Except.ok (some a) := by rw [h.read]; rfl
    cases hw : write a with
    | null => exact absurd hw (h.set a)
    | _ => rw [← hread, hw]; rfl

theorem present_written (h : decode.Inverts write) (hd : (fields.map Prod.fst).Nodup)
    (hf : fields.lookup name = some (value.map write)) :
    present (Json.ofFields fields).fields name decode = .ok value := by
  rw [present, Json.field?_ofFields hd, hf, Option.join_some]
  cases value with
  | none => rfl
  | some a =>
    show some <$> decode (write a) = _
    rw [h.read]
    rfl

end Decoder

open Decoder

theorem ObjectMeta.inverts : ObjectMeta.decode.Inverts toJson where
  read m := by
    have hd : ["annotations", "finalizers", "generateName", "generation", "labels", "name", "namespace",
      "resourceVersion", "uid"].Nodup := by decide
    have hannotations : optional m.toJson.fields "annotations" Decoder.labels = .ok m.annotations :=
      optional_written inverts_labels hd rfl
    have hfinalizers : optional m.toJson.fields "finalizers" (list string) = .ok m.finalizers :=
      optional_written inverts_string.list hd rfl
    have hgenerateName : optional m.toJson.fields "generateName" string = .ok m.generateName :=
      optional_written inverts_string hd rfl
    have hgeneration : optional m.toJson.fields "generation" int64 = .ok m.generation :=
      optional_written inverts_int64 hd rfl
    have hlabels : optional m.toJson.fields "labels" Decoder.labels = .ok m.labels :=
      optional_written inverts_labels hd rfl
    have hname : optional m.toJson.fields "name" string = .ok m.name :=
      optional_written inverts_string hd rfl
    have hns : optional m.toJson.fields "namespace" string = .ok m.ns :=
      optional_written inverts_string hd rfl
    have hversion : optional m.toJson.fields "resourceVersion" string = .ok m.resourceVersion :=
      optional_written inverts_string hd rfl
    have huid : optional m.toJson.fields "uid" string = .ok m.uid :=
      optional_written inverts_string hd rfl
    have hobject : object "ObjectMeta" m.toJson = .ok m.toJson.fields := rfl
    simp only [decode, hobject, hannotations, hfinalizers, hgenerateName, hgeneration, hlabels, hname,
      hns, hversion, huid, bind, Except.bind]
    rfl
  set _ h := by cases h

namespace Condition

theorem inverts : Condition.decode.Inverts toJson where
  read c := by
    have hd : ["lastTransitionTime", "message", "reason", "status", "type"].Nodup := by decide
    have htime : optional c.toJson.fields "lastTransitionTime" string = .ok c.lastTransitionTime :=
      optional_written inverts_string hd rfl
    have hmessage : optional c.toJson.fields "message" string = .ok c.message :=
      optional_written inverts_string hd rfl
    have hreason : optional c.toJson.fields "reason" string = .ok c.reason :=
      optional_written inverts_string hd rfl
    have hstatus : present c.toJson.fields "status" string = .ok (some c.status) :=
      present_written inverts_string hd rfl
    have htype : present c.toJson.fields "type" string = .ok (some c.type) :=
      present_written inverts_string hd rfl
    show ofFields c.toJson.fields = .ok c
    simp only [ofFields, htime, hmessage, hreason, hstatus, htype, bind, Except.bind]
    rfl
  set _ h := by cases h

end Condition

namespace ExportSpec

theorem inverts : ExportSpec.decode.Inverts toJson := ⟨fun _ => rfl, fun _ h => by cases h⟩

end ExportSpec

namespace ExportStatus

theorem inverts : ExportStatus.decode.Inverts toJson where
  read s := by
    obtain ⟨conditions⟩ := s
    cases conditions with
    | nil => rfl
    | cons c cs =>
      have hd : ["conditions"].Nodup := by decide
      have hconditions : present (toJson ⟨c :: cs⟩).fields "conditions" (list Condition.decode) =
          .ok (some (c :: cs)) := present_written Condition.inverts.list hd rfl
      show (present (toJson ⟨c :: cs⟩).fields "conditions" (list Condition.decode) >>= fun conditions =>
        Except.ok (⟨conditions.getD []⟩ : ExportStatus)) = _
      rw [hconditions]
      rfl
  set _ h := by cases h

end ExportStatus

namespace ServiceExport

theorem inverts : ServiceExport.decode.Inverts toJson where
  read x := by
    have hd : ["apiVersion", "kind", "metadata", "spec", "status"].Nodup := by decide
    have hmetadata : present x.toJson.fields "metadata" ObjectMeta.decode = .ok (some x.metadata) :=
      present_written ObjectMeta.inverts hd rfl
    have hspec : present x.toJson.fields "spec" ExportSpec.decode = .ok (some x.spec) :=
      present_written ExportSpec.inverts hd rfl
    have hstatus : optional x.toJson.fields "status" ExportStatus.decode = .ok x.status :=
      optional_written ExportStatus.inverts hd rfl
    show ofFields x.toJson.fields = .ok x
    simp only [ofFields, hmetadata, hspec, hstatus, bind, Except.bind]
    rfl
  set _ h := by cases h

end ServiceExport

def Decoder.normalize {α : Type} (decode : Decoder α) (write : α → Json) (v : Json) :
    Except DecodeError Json :=
  write <$> decode v

namespace Decoder.Inverts

variable {α : Type} {decode : Decoder α} {write : α → Json}

theorem normalize_normalize (h : decode.Inverts write) (v : Json) :
    (decode.normalize write v >>= decode.normalize write) = decode.normalize write v := by
  rw [normalize]
  cases decode v with
  | error e => rfl
  | ok a =>
    show write <$> decode (write a) = _
    rw [h.read]

theorem ne_of_ne (h : decode.Inverts write) {a b : α} (hne : a ≠ b) : write a ≠ write b := by
  intro hw
  have hread := h.read a
  rw [hw, h.read b] at hread
  exact hne (Except.ok.inj hread).symm

end Decoder.Inverts

/-- Every condition, status and export is read from what it is written as; so an unset field of a
condition and one set to the empty text are written differently, as are an unset status and an empty
one. And whatever is accepted, in either form, comes out in a form that reading and writing it again
leave as it is. -/
theorem read_of_written :
    (∀ c : Condition, Condition.decode c.toJson = .ok c) ∧
      (∀ s : ExportStatus, ExportStatus.decode s.toJson = .ok s) ∧
      (∀ x : ServiceExport, ServiceExport.decode x.toJson = .ok x) ∧
      (∀ c : Condition,
        ({ c with lastTransitionTime := none } : Condition).toJson ≠
            ({ c with lastTransitionTime := some "" } : Condition).toJson ∧
          ({ c with reason := none } : Condition).toJson ≠ ({ c with reason := some "" } : Condition).toJson ∧
          ({ c with message := none } : Condition).toJson ≠
            ({ c with message := some "" } : Condition).toJson) ∧
      (∀ x : ServiceExport,
        ({ x with status := none } : ServiceExport).toJson ≠
          ({ x with status := some {} } : ServiceExport).toJson) ∧
      ∀ v : Json,
        (Condition.decode.normalize Condition.toJson v >>= Condition.decode.normalize Condition.toJson) =
            Condition.decode.normalize Condition.toJson v ∧
          (ExportStatus.decode.normalize ExportStatus.toJson v >>=
              ExportStatus.decode.normalize ExportStatus.toJson) =
            ExportStatus.decode.normalize ExportStatus.toJson v ∧
          (ServiceExport.decode.normalize ServiceExport.toJson v >>=
              ServiceExport.decode.normalize ServiceExport.toJson) =
            ServiceExport.decode.normalize ServiceExport.toJson v := by
  refine ⟨Condition.inverts.read, ExportStatus.inverts.read, ServiceExport.inverts.read,
    fun c => ⟨?_, ?_, ?_⟩, fun x => ?_, fun v => ?_⟩
  · exact Condition.inverts.ne_of_ne (by simp)
  · exact Condition.inverts.ne_of_ne (by simp)
  · exact Condition.inverts.ne_of_ne (by simp)
  · exact ServiceExport.inverts.ne_of_ne (by simp)
  · exact ⟨Condition.inverts.normalize_normalize v, ExportStatus.inverts.normalize_normalize v,
      ServiceExport.inverts.normalize_normalize v⟩

end MeshExport
