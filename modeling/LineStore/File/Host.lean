import LineStore.Cache.Resolve
import LineStore.File.World
import LineStore.Data.Assoc
/-!
# The host of a program

Files and environment variables as a program finds them when it starts.
-/
namespace LineStore

structure Host where
  stat : Bytes → Option FileInfo
  read : Bytes → Reading
  env : Assoc Bytes
  cwd : Bytes

namespace Host

/-- An environment variable. -/
def getenv? (h : Host) (name : String) : Option Bytes := h.env.get? (utf8 name)

/-- An environment variable that is set and not empty. -/
def given? (h : Host) (name : String) : Option Bytes := (h.getenv? name).filter (!·.isEmpty)

/-- The world a cache sees, with the given sources in memory. -/
def world (h : Host) (source : Bytes → Option (List Bytes)) : World where
  stat := h.stat
  read := h.read
  home := h.given? "HOME"
  cwd := h.cwd
  source := source

end Host
end LineStore
