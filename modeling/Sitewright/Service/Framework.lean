import Sitewright.Service.Response
import Sitewright.Service.Target

namespace Sitewright

/-- The file to which names lead from a folder. Folders are not shown, nor what is outside of the
one that is served. -/
def Response.ofFile (folder : Path) (method : String) (names : List String) (files : Files) :
    Except RequestError Response :=
  if files.isFolder folder then
    if method = "GET" ∨ method = "HEAD" then
      let path := folder.follow names
      match folder.isPrefixOf path, files.read path with
      | true, .ok bytes => .ok ⟨200, .asset path bytes⟩
      | _, _ => .ok .notFound
    else .ok .notAllowed
  else .error (.noAssets folder)

/-- What carries requests to a service. It reads their addresses, serves the files of a folder, and
has pages of its own, such as those that document the service, under paths of one line. -/
structure Framework where
  target : String → Target := Target.ofUrl
  file : Path → String → List String → Files → Except RequestError Response := Response.ofFile
  pages : Named Response := []
  oneLine : ∀ path ∈ pages.keys, '\n' ∉ path.toList := by decide

end Sitewright
