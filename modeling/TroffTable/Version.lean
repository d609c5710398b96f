/-! The version of the library. -/

namespace TroffTable

def version : String := "1.0.0"

end TroffTable
