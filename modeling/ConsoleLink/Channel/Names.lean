import ConsoleLink.Config

/-!
# The names of a channel

All objects of a channel are named after its instance: a slash, the prefix of
the object and the instance name.
-/

namespace ConsoleLink

/-- The name of an object of an instance. -/
def objectName (namePrefix name : String) : String := "/" ++ namePrefix ++ name

/-- The names of the objects of a channel. -/
structure ChannelNames where
  instanceName : String
  mapping : String
  request : String
  response : String
  cancel : String
  job : String
  deriving DecidableEq, Repr

/-- The names that an instance has under given prefixes. -/
def ChannelNames.of (prefixes : Prefixes) (name : String) : ChannelNames where
  instanceName := name
  mapping := objectName prefixes.mapping name
  request := objectName prefixes.request name
  response := objectName prefixes.response name
  cancel := objectName prefixes.cancel name
  job := objectName prefixes.job name

end ConsoleLink
