import Mathlib
import CrowdSim.Sim.Config

/-!
# Which texts are configurations

`Config.parse` reads a configuration the way a stream decoder does: it takes the first JSON
value of the text and never looks at what follows it (`Record.firstValue`), reads that value
over the defaults (`Record.read`) and checks the result (`Config.validate`). This module says
which values the reading takes, as a schema: a `FieldType` for every field, and the relation
`Fits` between a type and the JSON values of that type.

* `null` fits every type, and reading it changes nothing;
* a record type is fitted by an object each of whose members selects a field, by exactly its
  name or else by its name without regard to case (`FieldType.lookup`), with a value that fits
  the field's type;
* a double takes a number whose nearest double is finite, an integer a number written without
  fraction or exponent that fits in 64 bits, a text a string and a flag a truth value.

`Record.read_isSome_iff` shows that fields typed by a schema read exactly the values that fit
it, and `Config.fields_typed` that the configuration's fields are typed by `Config.schema`.
So `Config.parse` succeeds exactly when the first value of the text fits the schema and the
defaults overlaid with it pass the checks, and then returns that overlay
(`config_parse_reads_first_value`). A text is thus not required to hold one object: `{} x`
and `null` both give the defaults (`config_parse_takes_trailing_text_and_null`).
-/

namespace CrowdSim

/-- The JSON type of a record field, as the reader takes it. -/
inductive FieldType where
  /-- A number whose nearest double is finite. -/
  | double
  /-- A number written as an integer, within 64 bits. -/
  | int64
  | text
  | flag
  /-- A nested record, with its fields' names and types. -/
  | record (fields : List (String × FieldType))

namespace FieldType

/-- The type of the field a member name selects: the first field of exactly that name, else the
first whose name is the same without regard to case. -/
def lookup (fs : List (String × FieldType)) (key : String) : Option FieldType :=
  match fs.find? (·.1 == key) with
  | some f => some f.2
  | none => (fs.find? fun f => Record.foldName f.1 == Record.foldName key).map (·.2)

end FieldType

/-- The JSON values of a type. A `null` fits every type. -/
inductive Fits : FieldType → Json → Prop
  | null (t : FieldType) : Fits t .null
  | double {lit : String} {n : Numeral} :
      Numeral.parse? lit = some n → n.toFloat.isInf = false → Fits .double (.num lit)
  | int64 {lit : String} {n : Int} : (Numeral.parse? lit).bind Numeral.toInt? = some n →
      -Record.int64Max - 1 ≤ n → n ≤ Record.int64Max → Fits .int64 (.num lit)
  | text (s : String) : Fits .text (.str s)
  | flag (b : Bool) : Fits .flag (.bool b)
  | record {fs : List (String × FieldType)} {ms : List (String × Json)} :
      (∀ m ∈ ms, (FieldType.lookup fs m.1).isSome) →
      (∀ m ∈ ms, ∀ t, FieldType.lookup fs m.1 = some t → Fits t m.2) → Fits (.record fs) (.obj ms)

/-- An object fits a record type when each member selects a field whose type its value fits. -/
theorem fits_record_iff {fs : List (String × FieldType)} {ms : List (String × Json)} :
    Fits (.record fs) (.obj ms) ↔ ∀ m ∈ ms, ∃ t, FieldType.lookup fs m.1 = some t ∧ Fits t m.2 := by
  constructor
  · intro hfit m hm
    cases hfit with
    | record known typed =>
      obtain ⟨t, ht⟩ := Option.isSome_iff_exists.mp (known m hm)
      exact ⟨t, ht, typed m hm t ht⟩
  · intro hms
    refine .record (fun m hm => ?_) (fun m hm t ht => ?_)
    · obtain ⟨t, ht, -⟩ := hms m hm
      simp [ht]
    · obtain ⟨t', ht', hfit⟩ := hms m hm
      rw [ht, Option.some_inj] at ht'
      exact ht' ▸ hfit

/-- The field reads exactly the values of the type, over whatever record it updates. -/
def Field.Typed {σ : Type} (f : Field σ) (t : FieldType) : Prop :=
  ∀ j s, (f.set j s).isSome ↔ Fits t j

/-- The fields carry the names and types of the schema, in its order. -/
def Field.ListTyped {σ : Type} (fields : List (Field σ)) (schema : List (String × FieldType)) :
    Prop :=
  List.Forall₂ (fun f e => f.name = e.1 ∧ f.Typed e.2) fields schema

namespace Record

variable {σ : Type}

@[simp] theorem float_name (name : String) (put : σ → Float → σ) : (float name put).name = name :=
  rfl

@[simp] theorem int_name (name : String) (put : σ → Int → σ) : (int name put).name = name := rfl

@[simp] theorem text_name (name : String) (put : σ → String → σ) : (text name put).name = name :=
  rfl

@[simp] theorem flag_name (name : String) (put : σ → Bool → σ) : (flag name put).name = name :=
  rfl

@[simp] theorem nested_name {τ : Type} (name : String) (fields : List (Field τ)) (get : σ → τ)
    (put : σ → τ → σ) : (nested name fields get put).name = name := rfl

theorem float_typed (name : String) (put : σ → Float → σ) : (float name put).Typed .double := by
  intro j s
  cases j
  case null => exact iff_of_true rfl (.null _)
  case num lit =>
    cases hn : Numeral.parse? lit with
    | none =>
      refine iff_of_false (by simp [float, hn]) ?_
      intro hfit
      cases hfit with
      | double hn' _ => simp [hn] at hn'
    | some n =>
      cases hinf : n.toFloat.isInf with
      | true =>
        refine iff_of_false (by simp [float, hn, hinf]) ?_
        intro hfit
        cases hfit with
        | double hn' hx =>
          rw [hn, Option.some_inj] at hn'
          subst hn'
          simp [hinf] at hx
      | false => exact iff_of_true (by simp [float, hn, hinf]) (.double hn hinf)
  -- a value of any other kind is refused and fits no such type
  all_goals exact iff_of_false (by simp [float]) (by rintro ⟨⟩)

theorem int_typed (name : String) (put : σ → Int → σ) : (int name put).Typed .int64 := by
  intro j s
  cases j
  case null => exact iff_of_true rfl (.null _)
  case num lit =>
    cases hn : (Numeral.parse? lit).bind Numeral.toInt? with
    | none =>
      refine iff_of_false (by simp [int, hn]) ?_
      intro hfit
      cases hfit with
      | int64 hn' _ _ => simp [hn] at hn'
    | some n =>
      by_cases hrange : -int64Max - 1 ≤ n ∧ n ≤ int64Max
      · refine iff_of_true ?_ (.int64 hn hrange.1 hrange.2)
        have hin : ¬ (n > int64Max ∨ n < -int64Max - 1) := by omega
        simp [int, hn, hin]
      · refine iff_of_false ?_ ?_
        · have hout : n > int64Max ∨ n < -int64Max - 1 := by omega
          simp [int, hn, hout]
        · intro hfit
          cases hfit with
          | int64 hn' hlo hhi =>
            rw [hn, Option.some_inj] at hn'
            subst hn'
            exact hrange ⟨hlo, hhi⟩
  all_goals exact iff_of_false (by simp [int]) (by rintro ⟨⟩)

theorem text_typed (name : String) (put : σ → String → σ) : (text name put).Typed .text := by
  intro j s
  cases j
  case null => exact iff_of_true rfl (.null _)
  case str t => exact iff_of_true rfl (.text t)
  all_goals exact iff_of_false (by simp [text]) (by rintro ⟨⟩)

theorem flag_typed (name : String) (put : σ → Bool → σ) : (flag name put).Typed .flag := by
  intro j s
  cases j
  case null => exact iff_of_true rfl (.null _)
  case bool b => exact iff_of_true rfl (.flag b)
  all_goals exact iff_of_false (by simp [flag]) (by rintro ⟨⟩)

/-- Two lists related member by member, searched by tests that agree on related members, give
related answers. -/
theorem find?_rel {α β : Type} {R : α → β → Prop} {p : α → Bool} {q : β → Bool}
    (hpq : ∀ a b, R a b → p a = q b) :
    ∀ {l₁ : List α} {l₂ : List β}, List.Forall₂ R l₁ l₂ → Option.Rel R (l₁.find? p) (l₂.find? q)
  | _, _, .nil => .none
  | a :: _, b :: _, .cons hab h => by
    rw [List.find?_cons, List.find?_cons, hpq a b hab]
    cases q b with
    | true => exact .some hab
    | false => exact find?_rel hpq h

variable {fields : List (Field σ)} {schema : List (String × FieldType)}

/-- A member name selects a field exactly when it selects a type of the schema, and the field
reads the values of that type. -/
theorem select_rel (h : Field.ListTyped fields schema) (key : String) :
    Option.Rel (fun f t => f.Typed t) (select fields key) (FieldType.lookup schema key) := by
  have hexact := find?_rel (p := (·.name == key)) (q := (·.1 == key))
    (fun f e he => by rw [he.1]) h
  have hfold := find?_rel (p := fun f => foldName f.name == foldName key)
    (q := fun e => foldName e.1 == foldName key) (fun f e he => by rw [he.1]) h
  unfold select FieldType.lookup
  -- both sides search by exact name, then by folded name, over related lists
  revert hexact hfold
  generalize fields.find? (·.name == key) = a
  generalize schema.find? (·.1 == key) = b
  generalize fields.find? (fun f => foldName f.name == foldName key) = a'
  generalize schema.find? (fun e => foldName e.1 == foldName key) = b'
  rintro (⟨hfe⟩ | _) hfold
  · exact .some hfe.2
  · cases hfold with
    | some hfe => exact .some hfe.2
    | none => exact .none

/-- Members applied in turn all succeed exactly when each selects a field of the schema with a
value of that field's type. -/
theorem applyMembers_isSome_iff (h : Field.ListTyped fields schema) :
    ∀ (ms : List (String × Json)) (s : σ), (applyMembers fields ms s).isSome ↔
      ∀ m ∈ ms, ∃ t, FieldType.lookup schema m.1 = some t ∧ Fits t m.2
  | [], s => by simp [applyMembers]
  | (k, v) :: rest, s => by
    have hrel := select_rel h k
    rw [applyMembers, List.forall_mem_cons]
    revert hrel
    generalize select fields k = o
    generalize FieldType.lookup schema k = ot
    -- the member's name selects a field exactly when it selects a type, read by that field
    rintro (⟨hft⟩ | _)
    · case some f t =>
      simp only [Option.bind_eq_bind, Option.bind_some, Option.some.injEq, exists_eq_left']
      cases hset : f.set v s with
      | none =>
        have hfit : ¬ Fits t v := by simpa [hset] using hft v s
        simp [hfit]
      | some s' =>
        have hfit : Fits t v := (hft v s).mp (by simp [hset])
        simpa [hfit] using applyMembers_isSome_iff h rest s'
    · simp

/-- **Fields typed by a schema read exactly the values that fit it.** -/
theorem read_isSome_iff (h : Field.ListTyped fields schema) (j : Json) (s : σ) :
    (read fields j s).isSome ↔ Fits (.record schema) j := by
  cases j
  case null => exact iff_of_true rfl (.null _)
  case obj ms =>
    rw [read, applyMembers_isSome_iff h, fits_record_iff]
  -- a scalar or an array is no record
  all_goals exact iff_of_false (by simp [read]) (by rintro ⟨⟩)

theorem nested_typed {τ : Type} {fields : List (Field τ)} (h : Field.ListTyped fields schema)
    (name : String) (get : σ → τ) (put : σ → τ → σ) :
    (nested name fields get put).Typed (.record schema) := by
  intro j s
  rw [nested, Option.isSome_map]
  exact read_isSome_iff h j (get s)

end Record

namespace Config

/-- The JSON type of the group constants. -/
def groupSchema : List (String × FieldType) :=
  [("field_of_view", .double), ("beta1", .double), ("beta2", .double), ("beta3", .double),
   ("comfort_distance", .double)]

/-- The JSON type of the force constants. -/
def forceSchema : List (String × FieldType) :=
  [("tau", .double), ("a1", .double), ("b1", .double), ("a2", .double), ("b2", .double),
   ("lambda", .double), ("boundary_a", .double), ("boundary_b", .double), ("radius", .double),
   ("min_force", .double), ("group", .record groupSchema)]

/-- The JSON type of the wayfinding constants. -/
def tuningSchema : List (String × FieldType) :=
  [("sampling_divisor", .double), ("course_deviation_threshold", .double),
   ("deviation_check_interval", .double), ("hysteresis_distance", .double),
   ("hysteresis_time", .double), ("passing_area_buffer", .double), ("target_clearance", .double),
   ("slow_progress_factor", .double), ("slow_progress_delay", .double),
   ("orientation_interval", .double), ("follow_stop_distance", .double),
   ("follow_search_radius", .double)]

/-- The JSON type of a speed distribution. -/
def speedSchema : List (String × FieldType) := [("mean", .double), ("std_dev", .double)]

/-- The JSON type of a configuration. -/
def schema : List (String × FieldType) :=
  [("integrator", .text), ("force", .record forceSchema), ("wayfinding", .record tuningSchema),
   ("normal_speed", .record speedSchema), ("max_speed", .record speedSchema),
   ("waypoint_width", .double), ("waiting_period", .double), ("workers", .int64),
   ("queue_size", .int64), ("stall_warning", .double), ("strict_routes", .flag), ("seed", .int64)]

theorem groupFields_typed : Field.ListTyped groupFields groupSchema := by
  simp [Field.ListTyped, groupFields, groupSchema, Record.float_typed]

theorem forceFields_typed : Field.ListTyped forceFields forceSchema := by
  simp [Field.ListTyped, forceFields, forceSchema, Record.float_typed,
    Record.nested_typed groupFields_typed]

theorem tuningFields_typed : Field.ListTyped tuningFields tuningSchema := by
  simp [Field.ListTyped, tuningFields, tuningSchema, Record.float_typed]

theorem speedFields_typed : Field.ListTyped speedFields speedSchema := by
  simp [Field.ListTyped, speedFields, speedSchema, Record.float_typed]

/-- The configuration's fields are typed by its schema. -/
theorem fields_typed : Field.ListTyped fields schema := by
  simp [Field.ListTyped, fields, schema, Record.float_typed, Record.int_typed, Record.text_typed,
    Record.flag_typed, Record.nested_typed forceFields_typed,
    Record.nested_typed tuningFields_typed, Record.nested_typed speedFields_typed]

/-- The checks never report a decoding failure: that error comes from the reading alone. -/
theorem validate_ne_decode (c : Config) : c.validate ≠ some .decode := by
  cases hforce : c.force.validate with
  | none =>
    simp only [validate, hforce]
    split_ifs <;> simp
  | some e =>
    simp only [validate, hforce]
    split_ifs <;> simp

theorem decode_eq_ok_iff (j : Json) (c : Config) :
    decode j = .ok c ↔ Record.read fields j default = some c ∧ c.validate = none := by
  unfold decode
  cases hr : Record.read fields j default with
  | none => simp
  | some c' =>
    cases hv : c'.validate with
    | none =>
      simp only [hv, Except.ok.injEq, Option.some.injEq]
      constructor
      · rintro rfl
        exact ⟨rfl, hv⟩
      · rintro ⟨rfl, -⟩
        rfl
    | some e =>
      simp only [hv, reduceCtorEq, Option.some.injEq, false_iff, not_and]
      rintro rfl
      simp [hv]

theorem decode_eq_error_decode_iff (j : Json) :
    decode j = .error .decode ↔ ¬ Fits (.record schema) j := by
  rw [← Record.read_isSome_iff fields_typed j default]
  unfold decode
  cases hr : Record.read fields j default with
  | none => simp
  | some c =>
    have hne := validate_ne_decode c
    cases hv : c.validate with
    | none => simp [hv]
    | some e =>
      rw [hv] at hne
      simp only [hv, Except.error.injEq, Option.isSome_some, not_true_eq_false, iff_false]
      rintro rfl
      exact hne rfl

theorem parse_eq_ok_iff (text : String) (c : Config) :
    parse text = .ok c ↔ ∃ j rest, Json.parsePrefix text = .ok (j, rest) ∧ decode j = .ok c := by
  unfold parse Record.firstValue
  cases Json.parsePrefix text with
  | error e => simp
  | ok r =>
    obtain ⟨j, rest⟩ := r
    simp

theorem parse_eq_error_decode_iff (text : String) :
    parse text = .error .decode ↔
      ∀ j rest, Json.parsePrefix text = .ok (j, rest) → decode j = .error .decode := by
  unfold parse Record.firstValue
  cases Json.parsePrefix text with
  | error e => simp
  | ok r =>
    obtain ⟨j, rest⟩ := r
    simp

end Config

/-- **A configuration is read from the first JSON value of its text.** For every text, the
reading succeeds exactly when the text begins with a JSON value (after blanks) that fits the
configuration's schema and whose overlay on the defaults passes the checks, and it returns that
overlay; whatever follows the value is not read. It fails to decode exactly when the first value
is missing or does not fit the schema; otherwise a failure is a check's. And the overlay of a
value on the defaults exists exactly when the value fits the schema: `null`, or an object whose
members each select a field (exactly, else without regard to case; recursively in the force
and group constants, the wayfinding constants and the speed distributions) with a value of the
field's type. -/
theorem config_parse_reads_first_value (text : String) :
    (∀ c, Config.parse text = .ok c ↔ ∃ j rest, Json.parsePrefix text = .ok (j, rest) ∧
        Fits (.record Config.schema) j ∧ Record.read Config.fields j Config.default = some c ∧
          c.validate = none) ∧
      (Config.parse text = .error .decode ↔
        ∀ j rest, Json.parsePrefix text = .ok (j, rest) → ¬ Fits (.record Config.schema) j) ∧
      ∀ j, (Record.read Config.fields j Config.default).isSome ↔ Fits (.record Config.schema) j := by
  have hfits := Record.read_isSome_iff Config.fields_typed (s := Config.default)
  refine ⟨fun c => ?_, ?_, hfits⟩
  · rw [Config.parse_eq_ok_iff]
    simp only [Config.decode_eq_ok_iff]
    constructor
    · rintro ⟨j, rest, hp, hr, hv⟩
      exact ⟨j, rest, hp, (hfits j).mp (by simp [hr]), hr, hv⟩
    · rintro ⟨j, rest, hp, -, hr, hv⟩
      exact ⟨j, rest, hp, hr, hv⟩
  · simp only [Config.parse_eq_error_decode_iff, Config.decode_eq_error_decode_iff]

/-- **Text after the first value is not read, and `null` is a configuration.** The text `{} x`
is no single JSON value, yet it reads as the defaults; so does `null`, which is no object. -/
theorem config_parse_takes_trailing_text_and_null :
    Json.parse "\x7b\x7d x" = .error "trailing text" ∧
      Config.parse "\x7b\x7d x" = .ok Config.default ∧
      Json.parse "null" = .ok .null ∧ Config.parse "null" = .ok Config.default :=
  ⟨by rfl, by rfl, by rfl, by rfl⟩

end CrowdSim
