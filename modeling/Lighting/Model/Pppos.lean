/-!
# `app_pppos.c` — connecting, and the events of the connection

The loop of `_ppp_task` by its calls, and `on_ip_event`. `is_connected` and `CONNECT_BIT` are
all the two share. What the modem answers to `sim7600_init` is input; the commands between it
and the attachment are checked with `ESP_ERROR_CHECK` and either succeed or end the run.
-/

set_option autoImplicit false

namespace Lighting

/-- Where `_ppp_task` is. -/
inductive PppPoint where
  | testing
  /-- `vTaskDelay` of 20 s, connected. -/
  | sleeping
  /-- `sim7600_init`. -/
  | initialising
  /-- `vTaskDelay` of 10 s, without a modem. -/
  | retrying
  /-- `esp_netif_attach`. -/
  | attaching
  /-- `xEventGroupWaitBits`, with clear on exit. -/
  | waiting
  deriving DecidableEq, Repr

/-- What `_ppp_task` and `on_ip_event` share, and where the task is. -/
structure Ppp where
  isConnected : Bool
  connectBit : Bool
  point : PppPoint
  deriving DecidableEq, Repr

/-- `_ppp_task` as it enters its loop. -/
def Ppp.start : Ppp := ⟨false, false, .testing⟩

/-- A step of the task, or an IP event. -/
inductive PppStep where
  | task (initOk : Bool)
  | gotIp
  | lostIp
  deriving DecidableEq, Repr

/-- The next call of `_ppp_task`. -/
def pppTask (initOk : Bool) (handle : Ppp) : Ppp :=
  match handle.point with
  | .testing => { handle with point := if handle.isConnected then .sleeping else .initialising }
  | .sleeping => { handle with point := .testing }
  | .initialising => { handle with point := if initOk then .attaching else .retrying }
  | .retrying => { handle with point := .testing }
  | .attaching => { handle with point := .waiting }
  | .waiting =>
    if handle.connectBit then { handle with connectBit := false, point := .testing } else handle

/-- `on_ip_event`. -/
def onIpEvent (gotIp : Bool) (handle : Ppp) : Ppp :=
  if gotIp then { handle with isConnected := true, connectBit := true }
  else { handle with isConnected := false }

def Ppp.step : PppStep → Ppp → Ppp
  | .task initOk, handle => pppTask initOk handle
  | .gotIp, handle => onIpEvent true handle
  | .lostIp, handle => onIpEvent false handle

end Lighting
