import ValeraControlTower.Robot.Models

/-!
# Payloads

What the payloads of all missions start with.
-/

namespace ValeraControlTower

namespace Robot

variable {K : Type}

/-- `_base_payload`, the `base` of the other payload functions. -/
def basePayload (task : Task) : PyPairs K :=
  [(py "object_id", .str task.objectId),
    (py "pickup_zone", .str task.pickupZone.value),
    (py "delivery_zone", .str task.deliveryZone.value)]

/-- The payload of an event of a status, on the way to a zone. -/
def statusPayload (task : Task) (status : String) (target : Option Zone) : PyPairs K :=
  union (basePayload task) ((py "status", literal status) ::
    match target with
    | none => []
    | some zone => [(py "current_target_zone", .str zone.value)])

def planPayload (task : Task) : PyPairs K :=
  union (basePayload task) [(py "status", literal "planned"),
    (py "planned_route", .arr [.str Zone.base.value, .str task.pickupZone.value,
      .str task.deliveryZone.value])]

end Robot

end ValeraControlTower
