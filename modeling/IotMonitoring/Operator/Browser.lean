import IotMonitoring.Operator.Dashboard
import IotMonitoring.Operator.RenderSensors
import IotMonitoring.Operator.ServerConnection
import Mathlib.Data.List.DropRight

/-!
# The page in the operator's browser

The handlers of `dashboard.js` run one at a time, for clicks, for the answer to the initial request
and for the messages of the three topics, in whatever order these come. What the page shows is
determined by that order: the last click on a tab, the alerts since the feed was last cleared, the
last list of sensors that could be rendered, and whether the connection was ever reported lost.
-/

namespace IotMonitoring.Operator.Browser

open Machine ParseSensors RenderSensors Dashboard

/-! ## The page -/

/-- The tabs, by `data-tab`. -/
inductive Tab where
  | sensors
  | alerts
deriving DecidableEq

/-- An element of the feed. -/
structure Element where
  className : Dashboard.JsString
  textContent : Dashboard.JsString
deriving DecidableEq

/-- The classes `active` of the buttons and panels, the feed, the variable `alertCount` and its
badge, the tables, the hint with the time of the last update, and the signs of the connection. -/
structure Page where
  activeButton : Tab → Bool
  activePanel : Tab → Bool
  alertFeed : List Element
  alertCount : ℕ
  alertBadge : ℕ
  tables : RenderSensors.Page
  lastUpdate : Dashboard.JsString
  dotClasses : List String
  connectionText : Dashboard.JsString
  toastDisplayed : Bool

/-- A click on a tab or on `btnClearAlerts`, the answer to the initial request, or a message with
the time at which it is handled. -/
inductive Event where
  | clickTab (target : Tab)
  | clearAlerts
  | fetched (sensors : List SensorData)
  | message (time : Dashboard.JsString) (body : ServerConnection.Message)

/-- The element that `addAlert` appends. -/
def alertElement (timestamp rawLine : Dashboard.JsString) : Element :=
  let item := addAlert rawLine
  let level := if item.level = .critical then "CRITICAL" else "WARNING"
  let cssClass := if item.level = .critical then "alert-critical" else "alert-warning"
  { className := "alert-item ".toList ++ cssClass.toList
    textContent := "[".toList ++ timestamp ++ "] [".toList ++ level.toList ++ "] Sensor ".toList ++
      item.sensorId ++ " (".toList ++ item.type ++ ") | Valor: ".toList ++ item.value ++
      " ".toList ++ item.unit }

/-- The element that stands in front of the alerts. -/
def stableElement (text : String) : Element := ⟨"alert-item alert-stable".toList, text.toList⟩

def clearedText : String := "Feed limpiado. Esperando alertas..."

def initialText : String :=
  "\n            Sistema estable. Esperando alertas en tiempo real...\n        "

/-- `updateAlertBadge`. -/
def updateAlertBadge (page : Page) : Page := { page with alertBadge := page.alertCount }

/-- `showConnectionLostToast`. -/
def showConnectionLostToast (page : Page) : Page :=
  { page with
    dotClasses := page.dotClasses.erase "dot-green" ++
      if "dot-red" ∈ page.dotClasses then [] else ["dot-red"]
    connectionText := "Sin conexión".toList
    toastDisplayed := true }

/-- The handlers. Where the rendering throws, it leaves the page alone, and so does the rest of its
handler. -/
def handle (lower : LowerCase) (page : Page) : Event → Page
  | .clickTab target =>
    { page with
      activeButton := Function.update (fun _ ↦ false) target true
      activePanel := Function.update (fun _ ↦ false) target true }
  | .clearAlerts =>
    updateAlertBadge { page with alertFeed := [stableElement clearedText], alertCount := 0 }
  | .fetched sensors =>
    match renderSensors lower (some sensors) with
    | some tables => { page with tables := tables }
    | none => page
  | .message time (.sensors sensors) =>
    match renderSensors lower (some sensors) with
    | some tables =>
      { page with tables := tables, lastUpdate := "Última actualización: ".toList ++ time }
    | none => page
  | .message time (.alert line) =>
    updateAlertBadge
      { page with
        alertFeed := page.alertFeed ++ [alertElement time line]
        alertCount := page.alertCount + 1 }
  | .message _ .lost => showConnectionLostToast page

/-- The page as a machine. -/
def browser (lower : LowerCase) : Labelled Page Event where
  step page event := some (handle lower page event)

/-- A table of the template. -/
def initialTable : Table where
  count := 0
  innerHTML := ("\n                        " ++
    "<tr><td colspan=\"3\" class=\"empty-row\">Sin sensores</td></tr>" ++
    "\n                    ").toList

/-- The page that the template yields. -/
def initialPage (connected : Bool) : Page where
  activeButton tab := tab = .sensors
  activePanel tab := tab = .sensors
  alertFeed := [stableElement initialText]
  alertCount := 0
  alertBadge := 0
  tables := ⟨initialTable, initialTable, initialTable, 0⟩
  lastUpdate := "Actualizando...".toList
  dotClasses := ["dot", if connected then "dot-green" else "dot-red"]
  connectionText := (if connected then "Servidor conectado" else "Sin conexión").toList
  toastDisplayed := false

/-! ## What it shows -/

def Event.isClear : Event → Bool
  | clearAlerts => true
  | _ => false

def Event.tab : Event → Option Tab
  | clickTab target => some target
  | _ => none

/-- The element of an alert. -/
def Event.alert : Event → Option Element
  | message time (.alert line) => some (alertElement time line)
  | _ => none

/-- The tables of a list that can be rendered. -/
def Event.tables (lower : LowerCase) : Event → Option RenderSensors.Page
  | fetched sensors => renderSensors lower (some sensors)
  | message _ (.sensors sensors) => renderSensors lower (some sensors)
  | _ => none

/-- The time of a published list that can be rendered. -/
def Event.updated (lower : LowerCase) : Event → Option Dashboard.JsString
  | message time (.sensors sensors) => (renderSensors lower (some sensors)).map fun _ ↦ time
  | _ => none

def Event.isLost : Event → Bool
  | message _ .lost => true
  | _ => false

/-- The alerts behind the last click on `btnClearAlerts`. -/
def currentAlerts (history : List Event) : List Element :=
  (history.rtakeWhile (! ·.isClear)).filterMap Event.alert

/-- The page after these events. -/
def pageOf (lower : LowerCase) (connected : Bool) (history : List Event) : Page where
  activeButton tab := tab = ((history.filterMap Event.tab).getLast?).getD .sensors
  activePanel tab := tab = ((history.filterMap Event.tab).getLast?).getD .sensors
  alertFeed :=
    stableElement (if history.any Event.isClear then clearedText else initialText) ::
      currentAlerts history
  alertCount := (currentAlerts history).length
  alertBadge := (currentAlerts history).length
  tables := ((history.filterMap (Event.tables lower)).getLast?).getD (initialPage connected).tables
  lastUpdate :=
    match (history.filterMap (Event.updated lower)).getLast? with
    | some time => "Última actualización: ".toList ++ time
    | none => "Actualizando...".toList
  dotClasses :=
    ["dot", if connected ∧ ¬ history.any Event.isLost then "dot-green" else "dot-red"]
  connectionText :=
    (if connected ∧ ¬ history.any Event.isLost then "Servidor conectado" else "Sin conexión").toList
  toastDisplayed := history.any Event.isLost

@[simp]
theorem currentAlerts_concat (history : List Event) (event : Event) :
    currentAlerts (history ++ [event]) =
      if event.isClear then [] else currentAlerts history ++ event.alert.toList := by
  rw [currentAlerts, List.rtakeWhile_concat]
  cases hclear : event.isClear with
  | true => rfl
  | false => cases halert : event.alert <;> simp [currentAlerts, halert]

/-- The last value in a history is that of its last event, where this has one. -/
@[simp]
theorem getLast?_filterMap_concat {α β : Type*} (f : α → Option β) (xs : List α) (x : α) :
    ((xs ++ [x]).filterMap f).getLast? = (f x).or (xs.filterMap f).getLast? := by
  cases h : f x <;> simp [h]

@[simp]
theorem any_concat {α : Type*} (p : α → Bool) (xs : List α) (x : α) :
    (xs ++ [x]).any p = (xs.any p || p x) := by
  simp

variable (lower : LowerCase) (connected : Bool) (history : List Event)

theorem pageOf_clickTab (target : Tab) :
    handle lower (pageOf lower connected history) (.clickTab target) =
      pageOf lower connected (history ++ [.clickTab target]) := by
  have hactive : Function.update (fun _ ↦ false) target true = fun tab ↦ decide (tab = target) := by
    funext tab
    by_cases htab : tab = target <;> simp [htab]
  simp [handle, pageOf, hactive, Event.tab, Event.isClear, Event.alert, Event.tables,
    Event.updated, Event.isLost]

theorem pageOf_clearAlerts :
    handle lower (pageOf lower connected history) .clearAlerts =
      pageOf lower connected (history ++ [.clearAlerts]) := by
  simp [handle, pageOf, updateAlertBadge, Event.tab, Event.isClear, Event.tables, Event.updated,
    Event.isLost]

theorem pageOf_fetched (sensors : List SensorData) :
    handle lower (pageOf lower connected history) (.fetched sensors) =
      pageOf lower connected (history ++ [.fetched sensors]) := by
  cases hrender : renderSensors lower (some sensors) <;>
    simp [handle, pageOf, hrender, Event.tab, Event.isClear, Event.alert, Event.tables,
      Event.updated, Event.isLost]

theorem pageOf_sensors (time : Dashboard.JsString) (sensors : List SensorData) :
    handle lower (pageOf lower connected history) (.message time (.sensors sensors)) =
      pageOf lower connected (history ++ [.message time (.sensors sensors)]) := by
  cases hrender : renderSensors lower (some sensors) <;>
    simp [handle, pageOf, hrender, Event.tab, Event.isClear, Event.alert, Event.tables,
      Event.updated, Event.isLost]

theorem pageOf_alert (time line : Dashboard.JsString) :
    handle lower (pageOf lower connected history) (.message time (.alert line)) =
      pageOf lower connected (history ++ [.message time (.alert line)]) := by
  simp [handle, pageOf, updateAlertBadge, Event.tab, Event.isClear, Event.alert, Event.tables,
    Event.updated, Event.isLost]

theorem pageOf_lost (time : Dashboard.JsString) :
    handle lower (pageOf lower connected history) (.message time .lost) =
      pageOf lower connected (history ++ [.message time .lost]) := by
  have hgreen : ["dot", "dot-green"].erase "dot-green" ++
      (if "dot-red" ∈ ["dot", "dot-green"] then [] else ["dot-red"]) = ["dot", "dot-red"] := by
    decide
  have hred : ["dot", "dot-red"].erase "dot-green" ++
      (if "dot-red" ∈ ["dot", "dot-red"] then [] else ["dot-red"]) = ["dot", "dot-red"] := by
    decide
  by_cases hconnected : connected = true ∧ ¬ history.any Event.isLost = true
  · simp only [handle, pageOf, showConnectionLostToast, if_pos hconnected, hgreen]
    simp [Event.tab, Event.isClear, Event.alert, Event.tables, Event.updated, Event.isLost]
  · simp only [handle, pageOf, showConnectionLostToast, if_neg hconnected, hred]
    simp [Event.tab, Event.isClear, Event.alert, Event.tables, Event.updated, Event.isLost]

/-- Every handler leaves the page that belongs to the history with its event. -/
theorem handle_pageOf (event : Event) :
    handle lower (pageOf lower connected history) event =
      pageOf lower connected (history ++ [event]) := by
  cases event with
  | clickTab target => exact pageOf_clickTab lower connected history target
  | clearAlerts => exact pageOf_clearAlerts lower connected history
  | fetched sensors => exact pageOf_fetched lower connected history sensors
  | message time body =>
    cases body with
    | sensors sensors => exact pageOf_sensors lower connected history time sensors
    | alert line => exact pageOf_alert lower connected history time line
    | lost => exact pageOf_lost lower connected history time

theorem pageOf_nil : pageOf lower connected [] = initialPage connected := by
  cases connected <;> rfl

/-- In every run of the page from its template, in whatever order clicks, answers and messages come,
it shows the tab that was clicked last, the alerts behind the last click on `btnClearAlerts` with
their number, the last list that could be rendered, and every loss of the connection. -/
theorem run_browser (events : List Event) :
    (browser lower).run (initialPage connected) events =
      some (pageOf lower connected events) := by
  suffices h : ∀ history, (browser lower).run (pageOf lower connected history) events =
      some (pageOf lower connected (history ++ events)) from pageOf_nil lower connected ▸ h []
  induction events with
  | nil => exact fun history ↦ by rw [Labelled.run_nil, List.append_nil]
  | cons event events ih =>
    intro history
    refine (Labelled.run_cons_eq_some (browser lower)).mpr
      ⟨_, congrArg some (handle_pageOf lower connected history event), ?_⟩
    rw [List.append_cons history event events]
    exact ih (history ++ [event])

end IotMonitoring.Operator.Browser
