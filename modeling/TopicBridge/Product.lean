/-! # The product

The name and the version that the bridge gives of itself.
-/

namespace TopicBridge.Product

/-- The name of the program. -/
def name : String := "mqtt2influx"

/-- The version of the program. -/
def version : String := "0.1.0"

end TopicBridge.Product
