import IotMonitoring.Auth.Utf8
import IotMonitoring.Sensors.Answers
import IotMonitoring.Sensors.RunLoop
import IotMonitoring.Server.Capacity
import Mathlib.Algebra.Field.Rat
import Mathlib.Data.List.Nodup

/-!
# The launcher of the sensors

`run_sensors.py` checks its arguments and starts one sensor under the id it is given, or several
whose ids are numbered. The numbered ids are different, so the table of the server decides how many
sensors can be served: fifty, over all launchers and other clients, as long as their ids fit into
the field. The launcher does not look at the characters of the id; what is stated here is about ids
of letters, digits, `-` and `_`.
-/

namespace IotMonitoring.Sensors.RunSensors

open Text Machine
open Auth.AuthServer (PyString encode decode decode_encode)
open Server (CDouble)
open Server.SensorManager
open SensorBase

/-- The parsed command line. -/
structure Args where
  host : PyString
  port : ℤ
  sensorId : PyString
  sensorType : SensorType
  interval : SensorBase.Number
  retryInterval : SensorBase.Number
  count : ℤ

/-- `value <= 0`. -/
def notPositive : SensorBase.Number → Bool
  | .finite negative magnitude => negative ∨ magnitude = 0
  | .infinite negative => negative
  | .nan => false

/-- `validate_args`, with the text given to `parser.error`; `repr` prints a `float`. -/
def validateArgs (repr : SensorBase.Number → PyString) (args : Args) : Except PyString Unit :=
  if args.port < 1 ∨ 65535 < args.port then
    .error ("--port must be between 1 and 65535, got ".toList ++ decimal args.port)
  else if notPositive args.interval then
    .error ("--interval must be > 0, got ".toList ++ repr args.interval)
  else if notPositive args.retryInterval then
    .error ("--retry-interval must be > 0, got ".toList ++ repr args.retryInterval)
  else if args.count < 1 then
    .error ("--count must be >= 1, got ".toList ++ decimal args.count)
  else .ok ()

/-- The ids of the sensors that `main` starts. -/
def sensorIds (args : Args) : List PyString :=
  if args.count = 1 then [args.sensorId]
  else (List.range' 1 args.count.toNat).map fun i : ℕ ↦ args.sensorId ++ '-' :: decimal i

/-- `make_sensor`: the sensor of an id. -/
def makeSensor (args : Args) (sensorId : PyString) : Config :=
  ⟨sensorId, args.sensorType, args.interval, args.retryInterval⟩

/-- `main`, up to the sensors that it runs. -/
def launch (repr : SensorBase.Number → PyString) (args : Args) : Except PyString (List Config) :=
  match validateArgs repr args with
  | .error text => .error text
  | .ok () => .ok ((sensorIds args).map (makeSensor args))

/-! ## Numbered ids -/

theorem decimal_natCast (n : ℕ) : decimal n = Nat.toDigits 10 n := by
  rw [decimal, decide_eq_false (by omega), sign, if_neg (by decide), Int.natAbs_natCast,
    List.nil_append]

theorem decimal_injective {i j : ℕ} (h : decimal i = decimal j) : i = j := by
  rw [decimal_natCast, decimal_natCast] at h
  have hvalue := congrArg (Nat.ofDigitChars 10 · 0) h
  simpa using hvalue

theorem nodup_sensorIds (args : Args) : (sensorIds args).Nodup := by
  unfold sensorIds
  split
  · simp
  · refine List.Pairwise.map _ (fun i j hne heq ↦ hne ?_) List.nodup_range'
    have htail := List.append_cancel_left heq
    exact decimal_injective (List.cons.inj htail).2

theorem length_sensorIds {args : Args} (hcount : 1 ≤ args.count) :
    ((sensorIds args).length : ℤ) = args.count := by
  unfold sensorIds
  split
  · simp [*]
  · rw [List.length_map, List.length_range', Int.toNat_of_nonneg (by omega)]

theorem isIdChar_of_mem_sensorIds {args : Args} (hname : ∀ c ∈ args.sensorId, isIdChar c)
    {sensorId : PyString} (hmem : sensorId ∈ sensorIds args) : ∀ c ∈ sensorId, isIdChar c := by
  unfold sensorIds at hmem
  split at hmem
  · rw [List.mem_singleton.mp hmem]
    exact hname
  · obtain ⟨i, -, rfl⟩ := List.mem_map.mp hmem
    refine List.forall_mem_append.mpr ⟨hname, List.forall_mem_cons.mpr ⟨by decide, ?_⟩⟩
    intro c hc
    have hdigit := Nat.isDigit_of_mem_toDigits (by decide) (by decide)
      (decimal_natCast i ▸ hc)
    simp only [Char.isDigit, Bool.and_eq_true, decide_eq_true_eq] at hdigit
    simp only [isIdChar, decide_eq_true_eq]
    exact .inr (.inr (.inl hdigit))

/-! ## One launcher and the table -/

theorem encode_injective : Function.Injective encode := by
  intro text text' h
  have hdecode := decode_encode text
  rw [h, decode_encode] at hdecode
  exact (Option.some.inj hdecode).symm

/-- The ids as the server reads them: they are different, and each is as long as the client's. -/
theorem exists_idStrings {ids : List PyString} (hnodup : ids.Nodup)
    (hids : ∀ sensorId ∈ ids, sensorId ≠ [] ∧ ∀ c ∈ sensorId, isIdChar c) :
    ∃ strings : List CString, strings.map CString.bytes = ids.map encode ∧
      strings.map CString.length = ids.map List.length ∧ strings.Nodup := by
  suffices h : ∃ strings : List CString, strings.map CString.bytes = ids.map encode ∧
      strings.map CString.length = ids.map List.length by
    obtain ⟨strings, hbytes, hlength⟩ := h
    refine ⟨strings, hbytes, hlength, .of_map CString.bytes ?_⟩
    rw [hbytes]
    exact hnodup.map encode_injective
  clear hnodup
  induction ids with
  | nil => exact ⟨[], rfl, rfl⟩
  | cons sensorId ids ih =>
    obtain ⟨⟨hne, hname⟩, hrest⟩ := List.forall_mem_cons.mp hids
    obtain ⟨strings, hbytes, hlength⟩ := ih hrest
    obtain ⟨string, hstring, hsize⟩ :=
      exists_idString ⟨hne, fun c hc ↦ visible_of_isIdChar (hname c hc)⟩
    exact ⟨string :: strings, by simp [hstring, hbytes], by simp [hsize, hlength]⟩

theorem ne_nil_of_mem_sensorIds {args : Args} (hne : args.sensorId ≠ []) {sensorId : PyString}
    (hmem : sensorId ∈ sensorIds args) : sensorId ≠ [] := by
  unfold sensorIds at hmem
  split at hmem
  · rw [List.mem_singleton.mp hmem]
    exact hne
  · obtain ⟨i, -, rfl⟩ := List.mem_map.mp hmem
    simp

theorem count_of_validateArgs {repr : SensorBase.Number → PyString} {args : Args}
    (hok : validateArgs repr args = .ok ()) : 1 ≤ args.count := by
  unfold validateArgs at hok
  split at hok
  · cases hok
  · split at hok
    · cases hok
    · split at hok
      · cases hok
      · split at hok
        · cases hok
        · rename_i hcount
          exact not_lt.mp hcount

theorem launch_eq_ok {repr : SensorBase.Number → PyString} {args : Args} {sensors : List Config}
    (h : launch repr args = .ok sensors) :
    1 ≤ args.count ∧ sensors = (sensorIds args).map (makeSensor args) := by
  unfold launch at h
  split at h
  · cases h
  · rename_i hok
    exact ⟨count_of_validateArgs hok, (Except.ok.inj h).symm⟩

variable {D : Type} [CDouble D]

/-- The sensors of a launch whose ids have valid characters and fit into their field are as many as
asked for, and have valid, different ids. If they are at most fifty together with the other ids that
clients use, none is ever refused, in whatever order all of them register, reconnect and measure; if
they are more than fifty, then in every state some of them is not in the table. -/
theorem served_of_launch {repr : SensorBase.Number → PyString} {args : Args}
    {sensors : List Config} (hlaunch : launch repr args = .ok sensors) (hne : args.sensorId ≠ [])
    (hname : ∀ c ∈ args.sensorId, isIdChar c)
    (hfits : ∀ sensor ∈ sensors, sensor.sensorId.length ≤ 31) :
    (sensors.length : ℤ) = args.count ∧ (sensors.map Config.sensorId).Nodup ∧
    (∀ sensor ∈ sensors, idPatternMatch sensor.sensorId) ∧
    (∀ others : List CString, (∀ other ∈ others, other.length ≤ 31) →
      sensors.length + others.length ≤ 50 → ∀ (calls : List (Call D)) t,
      (∀ call ∈ calls, call.sensorId ∈ others ∨
        ∃ sensor ∈ sensors, call.sensorId.bytes = encode sensor.sensorId) →
      (manager D).run init calls = some t →
      ∀ sensor ∈ sensors, ∀ string : CString, string.bytes = encode sensor.sensorId →
        ∀ now sensorType, (register now sensorType string t).2 = 0) ∧
    (50 < sensors.length → ∀ (calls : List (Call D)) t, (manager D).run init calls = some t →
      ∃ sensor ∈ sensors, ∃ string : CString, string.bytes = encode sensor.sensorId ∧
        findSensor t string = none) := by
  obtain ⟨hpos, rfl⟩ := launch_eq_ok hlaunch
  have hnames : ((sensorIds args).map (makeSensor args)).map Config.sensorId = sensorIds args := by
    rw [List.map_map]
    exact List.map_id _
  rw [hnames, List.length_map]
  simp only [List.mem_map, exists_exists_and_eq_and, forall_exists_index, and_imp,
    forall_apply_eq_imp_iff₂, makeSensor] at hfits ⊢
  have hids : ∀ sensorId ∈ sensorIds args, sensorId ≠ [] ∧ ∀ c ∈ sensorId, isIdChar c :=
    fun sensorId hmem ↦
      ⟨ne_nil_of_mem_sensorIds hne hmem, isIdChar_of_mem_sensorIds hname hmem⟩
  obtain ⟨strings, hbytes, hsizes, hnodup⟩ := exists_idStrings (nodup_sensorIds args) hids
  have hcount : strings.length = (sensorIds args).length := by
    simpa using congrArg List.length hbytes
  have hstring : ∀ sensorId ∈ sensorIds args, ∀ string : CString,
      string.bytes = encode sensorId → string ∈ strings := by
    intro sensorId hmem string heq
    have hmem' : encode sensorId ∈ strings.map CString.bytes := hbytes ▸ List.mem_map_of_mem hmem
    obtain ⟨string', hstring', heq'⟩ := List.mem_map.mp hmem'
    rwa [CString.ext (heq.trans heq'.symm)]
  refine ⟨length_sensorIds hpos, nodup_sensorIds args, fun sensorId hmem ↦ ?_,
    fun others hothers hfew calls t hcalls hrun ↦ ?_, fun hmany calls t hrun ↦ ?_⟩
  · exact idPatternMatch_iff.mpr ⟨sensorId, (hids sensorId hmem).1,
      (hfits sensorId hmem).trans (by decide), (hids sensorId hmem).2, .inl rfl⟩
  · intro sensorId hmem string heq now sensorType
    have hfits' : ∀ string ∈ strings ++ others, string.length ≤ 31 := by
      refine List.forall_mem_append.mpr ⟨fun string hmem ↦ ?_, hothers⟩
      obtain ⟨sensorId, hid, hsize⟩ := List.mem_map.mp (hsizes ▸ List.mem_map_of_mem hmem)
      exact hsize ▸ hfits sensorId hid
    have hfew' : (strings ++ others).length ≤ maxSensors := by
      rw [List.length_append, hcount]
      exact hfew
    have hmem' : string ∈ strings ++ others := List.mem_append_left _ (hstring _ hmem _ heq)
    refine register_of_fitting hfits' hfew' (fun call hcall ↦ ?_) hrun hmem' _ _
    obtain hother | ⟨sensor, hsensor, hbytes'⟩ := hcalls call hcall
    · exact List.mem_append_right _ hother
    · exact List.mem_append_left _ (hstring sensor hsensor _ hbytes')
  · obtain ⟨string, hmem, hnone⟩ := exists_missing_of_many hnodup (hcount ▸ hmany) t
    obtain ⟨sensorId, hid, heq⟩ := List.mem_map.mp (hbytes ▸ List.mem_map_of_mem hmem)
    exact ⟨sensorId, hid, string, heq.symm, hnone⟩

/-- Three sensors. -/
theorem served_of_launch_three :
    let sensors : List Config := ["boiler-1", "boiler-2", "boiler-3"].map fun sensorId ↦
      ⟨sensorId.toList, .temperature, .finite false 5, .finite false 10⟩
    launch (fun _ ↦ []) ⟨"127.0.0.1".toList, 8080, "boiler".toList, .temperature,
      .finite false 5, .finite false 10, 3⟩ = .ok sensors ∧
    (sensors.length : ℤ) = 3 ∧ (sensors.map Config.sensorId).Nodup ∧
    (∀ sensor ∈ sensors, idPatternMatch sensor.sensorId) ∧
    (∀ others : List CString, (∀ other ∈ others, other.length ≤ 31) →
      sensors.length + others.length ≤ 50 → ∀ (calls : List (Call ℚ)) t,
      (∀ call ∈ calls, call.sensorId ∈ others ∨
        ∃ sensor ∈ sensors, call.sensorId.bytes = encode sensor.sensorId) →
      (manager ℚ).run init calls = some t →
      ∀ sensor ∈ sensors, ∀ string : CString, string.bytes = encode sensor.sensorId →
        ∀ now sensorType, (register now sensorType string t).2 = 0) ∧
    (50 < sensors.length → ∀ (calls : List (Call ℚ)) t, (manager ℚ).run init calls = some t →
      ∃ sensor ∈ sensors, ∃ string : CString, string.bytes = encode sensor.sensorId ∧
        findSensor t string = none) := by
  intro sensors
  have hlaunch : launch (fun _ ↦ []) ⟨"127.0.0.1".toList, 8080, "boiler".toList, .temperature,
      .finite false 5, .finite false 10, 3⟩ = .ok sensors := by rfl
  exact ⟨hlaunch, served_of_launch hlaunch (by decide)
    (List.all_iff_forall_prop.mp (by decide)) (by decide)⟩

end IotMonitoring.Sensors.RunSensors
