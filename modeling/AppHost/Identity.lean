/-! The name and the version under which the program makes itself known. -/

set_option autoImplicit false
namespace AppHost

def programName : String := "apprunner"

def programVersion : String := "0.1.0"

end AppHost
