/-!
# Surroundings

What a program finds around it when it starts: variables and files.
-/
namespace WorkloadScaling

abbrev Environment := String → Option ByteArray

namespace Environment

def given? (env : Environment) (name : String) : Option String :=
  (env name).bind String.fromUTF8?

/-- The text of a variable; one that is not text, or is empty, counts as unset. -/
def text? (env : Environment) (name : String) : Option String :=
  (env.given? name).filter (· ≠ "")

def settingName (setting : String) : String := "SCALE_CLIENT_" ++ setting

end Environment

abbrev Files := String → Option ByteArray

namespace Files

def text? (files : Files) (path : String) : Option String := (files path).bind String.fromUTF8?

def directory (path : String) : String :=
  String.ofList (path.toList.reverse.dropWhile (· ≠ '/')).reverse

/-- Where a file is that another one names: beside it, unless the name begins at the root. -/
def beside (path file : String) : String :=
  if file.toList.head? = some '/' then file else directory path ++ file

end Files

end WorkloadScaling
