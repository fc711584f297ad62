import QueryWorkload.Proofs.JsonReading
import QueryWorkload.Proofs.TimestampReading
import QueryWorkload.Settings.Json

set_option autoImplicit false

namespace QueryWorkload

open Outcome

def Instant.IsOrdinary (t : Instant) : Prop :=
  t.nanos < second ∧ t.inCalendar = true

def Json.fields : Json → List (String × Json)
  | .obj members => members
  | _ => []

namespace FieldReader

section Fields

variable {V α : Type} {members : List (String × V)} {name : String} {read : V → Option α}

theorem field_given {v : V} {a standard : α} (only : members.filter (·.1 = name) = [(name, v)])
    (back : read v = some a) : field members name read standard = some a := by
  rw [field, only]
  exact back

theorem field_optional {r : FieldReader V} {write : α → V} {value? : Option α}
    (only : members.filter (·.1 = name) = value?.toList.map fun a => (name, write a))
    (shown : ∀ a, r.absent (write a) = some false) (back : ∀ a, read (write a) = some a) :
    field members name (r.optional read) none = some value? := by
  cases value? with
  | none => rw [field, only]; rfl
  | some a => exact field_given only (by rw [optional, shown, back]; rfl)

end Fields

theorem text_str (s : String) : json.text (.str s) = some s := rfl

theorem number_ofNat (n : UInt64) : json.number (.ofNat n.toNat) = some n := by
  have small : n.toNat < UInt64.size := n.toNat_lt
  have back : n.toNat.toUInt64 = n := UInt64.ofNat_toNat
  simp only [json, Json.ofNat, jsonNumber, if_pos small, back]

theorem flag_bool (b : Bool) : json.flag (.bool b) = some b := rfl

theorem backend_name (b : Backend) : json.backend (.str b.name) = some b := by
  cases b <;> rfl

theorem timestamp_toText {t : Instant} (ordinary : t.IsOrdinary) :
    json.timestamp (.str t.toText) = some t := by
  rw [timestamp]
  exact bind_of_eq_some (text_str _) (Timestamp.read_toText ordinary.1 ordinary.2)

-- Every field is looked up under the one name that it is written under.
theorem population_toJson (p : Population) : json.population p.toJson = some p := by
  have opened : json.members populationNames p.toJson = some p.toJson.fields := rfl
  refine bind_of_eq_some opened <|
    bind_of_eq_some (field_given ?_ (number_ofNat p.clusters)) <|
    bind_of_eq_some (field_given ?_ (number_ofNat p.shardsPerCluster)) <|
    bind_of_eq_some (field_given ?_ (number_ofNat p.replicasPerShard)) <|
    bind_of_eq_some (field_given ?_ (number_ofNat p.groups)) <|
    bind_of_eq_some (field_given ?_ (number_ofNat p.orgs)) rfl
  all_goals simp [Json.fields, Population.toJson]

theorem settings_toJson {c : Settings} (start : c.start.IsOrdinary) (stop : c.stop.IsOrdinary) :
    json.settings c.toJson = some c := by
  have opened : json.members settingNames c.toJson = some c.toJson.fields := rfl
  refine bind_of_eq_some opened <|
    bind_of_eq_some (field_given ?_ (text_str c.useCase)) <|
    bind_of_eq_some (field_given ?_ (text_str c.queryType)) <|
    bind_of_eq_some (field_given ?_ (backend_name c.backend)) <|
    bind_of_eq_some (field_given ?_ (number_ofNat c.scale)) <|
    bind_of_eq_some (field_given ?_ (timestamp_toText start)) <|
    bind_of_eq_some (field_given ?_ (timestamp_toText stop)) <|
    bind_of_eq_some (field_optional ?_ (fun _ => rfl) text_str) <|
    bind_of_eq_some (field_given ?_ (number_ofNat c.queries)) <|
    bind_of_eq_some (field_optional ?_ (fun _ => rfl) number_ofNat) <|
    bind_of_eq_some (field_given ?_ (number_ofNat c.workers)) <|
    bind_of_eq_some (field_given ?_ (flag_bool c.separateTags)) <|
    bind_of_eq_some (field_optional ?_ (fun _ => rfl) population_toJson) rfl
  all_goals simp [Json.fields, Settings.toJson, List.filter_map, Function.comp_def]

end FieldReader

@[simp] theorem Population.exact_toJson (p : Population) : Json.Exact p.toJson := by
  simp [Population.toJson]

namespace Settings

theorem exact_toJson (c : Settings) : Json.Exact c.toJson := by
  simp [toJson, or_imp, forall_and]

theorem ofJson?_read_text {c : Settings} (start : c.start.IsOrdinary) (stop : c.stop.IsOrdinary) :
    (Json.read c.toJson.text).bind ofJson? = some c := by
  rw [Json.read_text c.exact_toJson]
  exact FieldReader.settings_toJson start stop

/-- Settings are read back from the text that they are written as. So the range, the fleet and what is
found wrong stay the same, and no other settings have that text. -/
theorem written_and_read_back {c : Settings} (start : c.start.IsOrdinary) (stop : c.stop.IsOrdinary) :
    ofJson? c.toJson = some c ∧
    (Json.read c.toJson.text).bind ofJson? = some c ∧
    (∀ back, (Json.read c.toJson.text).bind ofJson? = some back →
      back.range = c.range ∧ back.fleet = c.fleet ∧ back.validate = c.validate) ∧
    ∀ other : Settings, other.start.IsOrdinary → other.stop.IsOrdinary → other ≠ c →
      other.toJson.text ≠ c.toJson.text := by
  have back := ofJson?_read_text start stop
  refine ⟨FieldReader.settings_toJson start stop, back, ?_, ?_⟩
  · intro found read
    rw [back] at read
    cases read
    exact ⟨rfl, rfl, rfl⟩
  · intro other start' stop' different same
    have back' := ofJson?_read_text start' stop'
    rw [same, back] at back'
    exact different (Option.some.inj back').symm

-- From the second nanosecond of the calendar to its last millisecond.
theorem written_and_read_back_of_calendar :
    let c : Settings :=
      { useCase := "\"a\\b\"\n", backend := .mongo, start := ⟨-8334601228800, 1⟩
        stop := ⟨8210266876799, 999000000⟩, span := some "7d\x01", seed := some 18446744073709551615
        population := some { clusters := 0, orgs := 18446744073709551615 } }
    c.start.toText = "-262143-01-01T00:00:00.000000001Z" ∧
      c.stop.toText = "+262142-12-31T23:59:59.999Z" ∧ c.start.IsOrdinary ∧ c.stop.IsOrdinary ∧
      (Json.read c.toJson.text).bind ofJson? = some c := by
  intro c
  have start : c.start.IsOrdinary := ⟨by decide, rfl⟩
  have stop : c.stop.IsOrdinary := ⟨by decide, rfl⟩
  exact ⟨by decide, by decide, start, stop, (written_and_read_back start stop).2.1⟩

end Settings

end QueryWorkload
