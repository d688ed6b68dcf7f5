import IotMonitoring.Machine.Slots
import IotMonitoring.Server.Double
import IotMonitoring.Text.Listing

/-!
# The sensor table

`sensor_manager.c` keeps at most 50 sensors in a static array. Registration appends a slot unless
one already holds the id, and every other operation works on the first slot whose stored id equals
the id it is given. Registration stores the id and the type cut to the width of their fields, and
no operation changes them afterwards: the directory of stored ids and types only grows, so a search
that has succeeded once keeps its answer.

A `const char *` to the type of a sensor is modelled by the index of the slot it points into.
-/

namespace IotMonitoring.Server.SensorManager

open Text Machine

def maxSensors : ℕ := 50

/-- `Sensor_t`. -/
structure Sensor (D : Type) where
  id : CharField 31
  type : CharField 15
  lastValue : D
  lastUnit : CharField 15
  lastTimestamp : ℤ
  isActive : Bool

/-- The static array `sensors` with `sensor_count`. -/
abbrev SensorTable (D : Type) := Slots (Sensor D) maxSensors

variable {D : Type} [CDouble D]

/-- A slot cleared by `memset`. -/
def Sensor.zero : Sensor D := ⟨.zero 31, .zero 15, CDouble.ofNat 0, .zero 15, 0, false⟩

/-- `sensor_manager_init`. -/
def init : SensorTable D := .empty maxSensors Sensor.zero

/-- The search loop that all operations share. -/
def findSensor (table : SensorTable D) (sensorId : CString) : Option (Fin maxSensors) :=
  table.find fun sensor ↦ sensor.id.str = sensorId

/-- The assignments that fill a slot at registration. -/
def Sensor.fill (slot : Sensor D) (now : ℤ) (sensorType sensorId : CString) : Sensor D where
  id := slot.id.strncpy sensorId
  type := slot.type.strncpy sensorType
  lastValue := CDouble.ofNat 0
  lastUnit := slot.lastUnit.clear
  lastTimestamp := now
  isActive := true

def Sensor.activate (sensor : Sensor D) : Sensor D := { sensor with isActive := true }

/-- The assignments that store a measurement. -/
def Sensor.store (sensor : Sensor D) (now : ℤ) (value : D) (unit : CString) : Sensor D :=
  { sensor with
    lastValue := value
    lastUnit := sensor.lastUnit.strncpy unit
    lastTimestamp := now
    isActive := true }

/-- `sensor_manager_register`. -/
def register (now : ℤ) (sensorType sensorId : CString) (table : SensorTable D) :
    SensorTable D × ℤ :=
  match findSensor table sensorId with
  | some i => (table.modify i Sensor.activate, 0)
  | none =>
    if hroom : table.count < maxSensors then
      (table.push hroom ((table.next hroom).fill now sensorType sensorId), 0)
    else (table, -1)

/-- `sensor_manager_add_measurement`. -/
def addMeasurement (now : ℤ) (sensorId : CString) (value : D) (unit : CString)
    (table : SensorTable D) : SensorTable D × ℤ :=
  match findSensor table sensorId with
  | some i => (table.modify i fun sensor ↦ sensor.store now value unit, 0)
  | none => (table, -1)

/-- The line of one sensor, formatted into a buffer of 128 bytes. -/
def sensorRecord (sensor : Sensor D) : CString :=
  CString.snprintf 128 (sensor.id.str ++ .lit "," ++ sensor.type.str ++ .lit "," ++
    CDouble.fixed2 sensor.lastValue ++ .lit "," ++ sensor.lastUnit.str ++ .lit ";")

def activeRecords (table : SensorTable D) : List CString :=
  (table.live.filter Sensor.isActive).map sensorRecord

/-- `sensor_manager_get_active_sensors`; `none` is the return value `-1`. -/
def getActiveSensors (bufferSize : ℤ) (table : SensorTable D) : Option CString :=
  if bufferSize ≤ 0 then none else some (listing bufferSize.toNat (activeRecords table))

/-- `sensor_manager_is_sensor_registered`. -/
def isSensorRegistered (sensorId : CString) (table : SensorTable D) : ℤ :=
  match findSensor table sensorId with
  | some _ => 1
  | none => 0

/-- `sensor_manager_get_sensor_type`. -/
def getSensorType (sensorId : CString) (table : SensorTable D) : Option (Fin maxSensors) :=
  findSensor table sensorId

/-- The string at a pointer that `sensor_manager_get_sensor_type` has returned. -/
def typeAt (table : SensorTable D) (pointer : Fin maxSensors) : CString :=
  (table.get pointer).type.str

/-- `sensor_manager_cleanup`. -/
def cleanup (table : SensorTable D) : SensorTable D := table.reset

/-! ## The directory -/

/-- Stored id and type of a slot. -/
def Sensor.entry (sensor : Sensor D) : CString × CString := (sensor.id.str, sensor.type.str)

/-- Stored ids and types of the slots in use. -/
def directory (table : SensorTable D) : List (CString × CString) := table.keys Sensor.entry

omit [CDouble D] in
theorem length_directory (table : SensorTable D) : (directory table).length = table.count :=
  table.length_keys Sensor.entry

omit [CDouble D] in
/-- An id is found when the directory has an entry under it. -/
theorem findSensor_eq_none_iff {table : SensorTable D} {sensorId : CString} :
    findSensor table sensorId = none ↔ ∀ entry ∈ directory table, entry.1 ≠ sensorId := by
  rw [findSensor, Slots.find_eq_none_iff]
  simp [directory, Slots.keys, Sensor.entry]

omit [CDouble D] in
theorem findSensor_eq_some {table : SensorTable D} {sensorId : CString} {i : Fin maxSensors}
    (h : findSensor table sensorId = some i) :
    i < table.count ∧ (table.get i).id.str = sensorId := by
  obtain ⟨hlive, hid⟩ := Slots.find_eq_some h
  exact ⟨hlive, by simpa using hid⟩

omit [CDouble D] in
/-- A growing directory keeps the slot that serves an id. -/
theorem findSensor_of_grow {table table' : SensorTable D} {sensorId : CString}
    {i : Fin maxSensors} (hgrow : directory table <+: directory table')
    (h : findSensor table sensorId = some i) : findSensor table' sensorId = some i :=
  Slots.find_of_grow (q := fun entry ↦ entry.1 = sensorId) hgrow h

omit [CDouble D] in
/-- A growing directory keeps the type that a slot in use holds. -/
theorem typeAt_of_grow {table table' : SensorTable D} {i : Fin maxSensors}
    (hgrow : directory table <+: directory table') (hlive : i < table.count) :
    typeAt table' i = typeAt table i :=
  congrArg Prod.snd (Slots.key_get_of_grow hgrow hlive)

@[simp]
theorem Sensor.entry_fill (slot : Sensor D) (now : ℤ) (sensorType sensorId : CString) :
    (slot.fill now sensorType sensorId).entry = (sensorId.cut 31, sensorType.cut 15) := by
  simp [Sensor.entry, Sensor.fill]

/-- Registration finds the id, appends a slot, or finds the table full. -/
theorem register_cases (now : ℤ) (sensorType sensorId : CString) (table : SensorTable D) :
    (∃ i, findSensor table sensorId = some i ∧
      register now sensorType sensorId table = (table.modify i Sensor.activate, 0)) ∨
    (findSensor table sensorId = none ∧ ∃ hroom : table.count < maxSensors,
      register now sensorType sensorId table =
        (table.push hroom ((table.next hroom).fill now sensorType sensorId), 0)) ∨
    (findSensor table sensorId = none ∧ table.count = maxSensors ∧
      register now sensorType sensorId table = (table, -1)) := by
  cases hfind : findSensor table sensorId with
  | some i => exact .inl ⟨i, rfl, by simp only [register, hfind]⟩
  | none =>
    right
    by_cases hroom : table.count < maxSensors
    · exact .inl ⟨rfl, hroom, by simp only [register, hfind, dif_pos hroom]⟩
    · exact .inr ⟨rfl, table.count_le.antisymm (not_lt.mp hroom),
        by simp only [register, hfind, dif_neg hroom]⟩

omit [CDouble D] in
/-- A measurement is stored in the slot found for its id, or rejected. -/
theorem addMeasurement_cases (now : ℤ) (sensorId : CString) (value : D) (unit : CString)
    (table : SensorTable D) :
    (∃ i, findSensor table sensorId = some i ∧
      addMeasurement now sensorId value unit table =
        (table.modify i fun sensor ↦ sensor.store now value unit, 0)) ∨
    (findSensor table sensorId = none ∧
      addMeasurement now sensorId value unit table = (table, -1)) := by
  cases hfind : findSensor table sensorId with
  | some i => exact .inl ⟨i, rfl, by simp only [addMeasurement, hfind]⟩
  | none => exact .inr ⟨rfl, by simp only [addMeasurement, hfind]⟩

omit [CDouble D] in
/-- Measurements leave the directory alone. -/
theorem directory_addMeasurement (now : ℤ) (sensorId : CString) (value : D) (unit : CString)
    (table : SensorTable D) :
    directory (addMeasurement now sensorId value unit table).1 = directory table := by
  obtain ⟨i, -, heq⟩ | ⟨-, heq⟩ := addMeasurement_cases now sensorId value unit table
  · rw [heq]
    exact table.keys_modify Sensor.entry i fun _ ↦ rfl
  · rw [heq]

/-- Registration appends at most one entry. -/
theorem directory_register (now : ℤ) (sensorType sensorId : CString) (table : SensorTable D) :
    directory table <+: directory (register now sensorType sensorId table).1 := by
  obtain ⟨i, -, heq⟩ | ⟨-, hroom, heq⟩ | ⟨-, -, heq⟩ :=
    register_cases now sensorType sensorId table
  · have hkeys : directory (table.modify i Sensor.activate) = directory table :=
      table.keys_modify Sensor.entry i fun _ ↦ rfl
    exact heq ▸ hkeys ▸ List.prefix_refl _
  · rw [heq, directory, directory, Slots.keys_push]
    exact List.prefix_append _ _
  · exact heq ▸ List.prefix_refl _

end IotMonitoring.Server.SensorManager
