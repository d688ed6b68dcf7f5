import IotMonitoring.Server.AlertEngine
import IotMonitoring.Server.SensorManager
import IotMonitoring.Text.Buffer

/-!
# The listing functions in memory

`sensor_manager_get_active_sensors` and `alert_engine_get_active_alerts` write into a buffer of the
caller. They are one function, which clears the buffer and runs the append loop, over the sensors
that are active and over the alerts that are not resolved. What it leaves in the buffer is the
listing that the rest of the server reads from it.
-/

namespace IotMonitoring.Server.Listings

open Text Text.Buffer SensorManager AlertEngine

/-- Either listing; the value is the buffer with the return value. -/
def getActive {α : Type} (eligible : α → Bool) (format : α → CString) (bufferSize : Int32)
    (entries : List α) (outputBuffer : Bytes) : Option (Bytes × ℤ) :=
  if bufferSize ≤ 0 then some (outputBuffer, -1)
  else do
    let buffer ← appendLoop eligible format bufferSize entries (outputBuffer.set 0 0)
    some (buffer, 0)

variable {D : Type} [CDouble D]

/-- `sensor_manager_get_active_sensors`. -/
def getActiveSensors (bufferSize : Int32) (table : SensorTable D) (outputBuffer : Bytes) :
    Option (Bytes × ℤ) :=
  getActive Sensor.isActive sensorRecord bufferSize table.live outputBuffer

/-- `!is_resolved && sensor_id[0] != '\0'`. -/
def isListed (alert : ActiveAlert D) : Bool := !alert.isResolved && alert.sensorId.str ≠ ∅

/-- `alert_engine_get_active_alerts`. -/
def getActiveAlerts (bufferSize : Int32) (engine : Engine D) (outputBuffer : Bytes) :
    Option (Bytes × ℤ) :=
  getActive isListed alertRecord bufferSize engine.activeAlerts.live outputBuffer

/-- Every round of the loop leaves the buffer filled as it should be, and the buffer after the last
one is returned. -/
def FillsBuffer {α : Type} (eligible : α → Bool) (format : α → CString) (bufferSize : Int32)
    (entries : List α) (outputBuffer : Bytes) (outcome : Option (Bytes × ℤ)) : Prop :=
  Fills eligible format bufferSize.toNatClampNeg entries
      (fun k ↦ appendLoop eligible format bufferSize (entries.take k) (outputBuffer.set 0 0))
      (fun k ↦ kept eligible format bufferSize.toNatClampNeg (entries.take k)) ∧
    ∃ buffer, appendLoop eligible format bufferSize entries (outputBuffer.set 0 0) = some buffer ∧
      outcome = some (buffer, 0)

section Loop

variable {α : Type} {eligible : α → Bool} {format : α → CString} {bufferSize : Int32}
  {outputBuffer : Bytes}

theorem holds_cleared (hpos : 0 < bufferSize)
    (hlength : outputBuffer.length = bufferSize.toNatClampNeg) :
    Holds bufferSize.toNatClampNeg (outputBuffer.set 0 0) ∅ := by
  have hsize : 0 < bufferSize.toInt := Int32.lt_iff_toInt_lt.mp hpos
  have hbuffer : 0 < outputBuffer.length := by
    rw [hlength, Int32.toNatClampNeg]
    omega
  exact hlength ▸ holds_clear hbuffer

theorem getActive_eq (hpos : 0 < bufferSize) (entries : List α) :
    getActive eligible format bufferSize entries outputBuffer =
      (appendLoop eligible format bufferSize entries (outputBuffer.set 0 0)).map (·, 0) := by
  rw [getActive, if_neg (Int32.not_le.mpr hpos), Option.map_eq_bind]
  rfl

theorem fillsBuffer_getActive (hpos : 0 < bufferSize)
    (hlength : outputBuffer.length = bufferSize.toNatClampNeg)
    (hformat : ∀ entry, (format entry).length < 2 ^ 31) (entries : List α) :
    FillsBuffer eligible format bufferSize entries outputBuffer
      (getActive eligible format bufferSize entries outputBuffer) := by
  have hclear := holds_cleared hpos hlength
  obtain ⟨buffer, hloop, -⟩ := holds_appendLoop hpos hformat hclear entries
  refine ⟨fills_appendLoop hpos hformat hclear entries, buffer, hloop, ?_⟩
  rw [getActive_eq hpos, hloop, Option.map_some]

/-- The string in the buffer is the listing of the records. -/
theorem read_getActive (hpos : 0 < bufferSize)
    (hlength : outputBuffer.length = bufferSize.toNatClampNeg)
    (hformat : ∀ entry, (format entry).length < 2 ^ 31) (entries : List α) :
    ∃ buffer, getActive eligible format bufferSize entries outputBuffer = some (buffer, 0) ∧
      CString.read buffer =
        listing bufferSize.toNatClampNeg ((entries.filter eligible).map format) := by
  have hclear := holds_cleared hpos hlength
  obtain ⟨buffer, hloop, hholds⟩ := holds_appendLoop hpos hformat hclear entries
  refine ⟨buffer, ?_, ?_⟩
  · rw [getActive_eq hpos, hloop, Option.map_some]
  · rw [hholds.read, listing_eq_concat_kept]

end Loop

theorem length_sensorRecord_le (sensor : Sensor D) : (sensorRecord sensor).length ≤ 127 :=
  CString.length_cut_le 127 _

theorem length_alertRecord_le (alert : ActiveAlert D) : (alertRecord alert).length ≤ 511 :=
  CString.length_cut_le 511 _

theorem getActiveSensors_of_pos {bufferSize : Int32} (hpos : 0 < bufferSize)
    (table : SensorTable D) : SensorManager.getActiveSensors bufferSize.toInt table =
      some (listing bufferSize.toNatClampNeg (activeRecords table)) := by
  have hsize : 0 < bufferSize.toInt := Int32.lt_iff_toInt_lt.mp hpos
  rw [SensorManager.getActiveSensors, if_neg (by omega)]
  rfl

theorem getActiveAlerts_of_pos {bufferSize : Int32} (hpos : 0 < bufferSize) (engine : Engine D) :
    AlertEngine.getActiveAlerts bufferSize.toInt engine =
      some (listing bufferSize.toNatClampNeg (unresolvedRecords engine.activeAlerts)) := by
  have hsize : 0 < bufferSize.toInt := Int32.lt_iff_toInt_lt.mp hpos
  rw [AlertEngine.getActiveAlerts, if_neg (by omega)]
  rfl

/-- Reading the buffer of the caller gives the listing of the sensors. -/
theorem read_getActiveSensors {bufferSize : Int32} (hpos : 0 < bufferSize) {outputBuffer : Bytes}
    (hlength : outputBuffer.length = bufferSize.toNatClampNeg) (table : SensorTable D) :
    ∃ buffer, getActiveSensors bufferSize table outputBuffer = some (buffer, 0) ∧
      SensorManager.getActiveSensors bufferSize.toInt table = some (CString.read buffer) := by
  have hformat (sensor : Sensor D) : (sensorRecord sensor).length < 2 ^ 31 :=
    (length_sensorRecord_le sensor).trans_lt (by omega)
  obtain ⟨buffer, hlist, hread⟩ := read_getActive hpos hlength hformat table.live
  refine ⟨buffer, hlist, ?_⟩
  rw [getActiveSensors_of_pos hpos, hread]
  rfl

/-- Reading the buffer of the caller gives the listing of the alerts. -/
theorem read_getActiveAlerts {bufferSize : Int32} (hpos : 0 < bufferSize) {outputBuffer : Bytes}
    (hlength : outputBuffer.length = bufferSize.toNatClampNeg) (engine : Engine D) :
    ∃ buffer, getActiveAlerts bufferSize engine outputBuffer = some (buffer, 0) ∧
      AlertEngine.getActiveAlerts bufferSize.toInt engine = some (CString.read buffer) := by
  have hformat (alert : ActiveAlert D) : (alertRecord alert).length < 2 ^ 31 :=
    (length_alertRecord_le alert).trans_lt (by omega)
  obtain ⟨buffer, hlist, hread⟩ := read_getActive hpos hlength hformat engine.activeAlerts.live
  refine ⟨buffer, hlist, ?_⟩
  rw [getActiveAlerts_of_pos hpos, hread]
  rfl

/-- For any table, any alerts and any buffer of the caller both loops stay inside the buffer, which
is terminated after every round, and leave out only what does not fit. -/
theorem listings_fill_buffer {bufferSize : Int32} (hpos : 0 < bufferSize) {outputBuffer : Bytes}
    (hlength : outputBuffer.length = bufferSize.toNatClampNeg) (table : SensorTable D)
    (engine : Engine D) :
    FillsBuffer Sensor.isActive sensorRecord bufferSize table.live outputBuffer
        (getActiveSensors bufferSize table outputBuffer) ∧
      FillsBuffer isListed alertRecord bufferSize engine.activeAlerts.live outputBuffer
        (getActiveAlerts bufferSize engine outputBuffer) := by
  constructor
  · apply fillsBuffer_getActive hpos hlength
    intro sensor
    exact (length_sensorRecord_le sensor).trans_lt (by omega)
  · apply fillsBuffer_getActive hpos hlength
    intro alert
    exact (length_alertRecord_le alert).trans_lt (by omega)

/-- A buffer of thirty bytes with anything in it has room for one of two sensors. -/
theorem listings_fill_buffer_thirty :
    let outputBuffer : Bytes := List.replicate 30 170
    let table : SensorTable ℚ := (register 0 (.lit "temperature") (.lit "t2")
      (register 0 (.lit "temperature") (.lit "t1") SensorManager.init).1).1
    let engine : Engine ℚ := AlertEngine.init
    FillsBuffer Sensor.isActive sensorRecord 30 table.live outputBuffer
        (getActiveSensors 30 table outputBuffer) ∧
      FillsBuffer isListed alertRecord 30 engine.activeAlerts.live outputBuffer
        (getActiveAlerts 30 engine outputBuffer) :=
  listings_fill_buffer (by decide) (by decide) _ _

end IotMonitoring.Server.Listings
