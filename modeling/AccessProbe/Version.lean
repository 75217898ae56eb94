/-! The name and the version of the program. -/

namespace AccessProbe

def programName : String := "cenarius-probe"

def version : String := "0.1.0"

/-- The `user-agent` that every request carries unless the header file replaces it. -/
def userAgent : String := programName ++ "/" ++ version

end AccessProbe
