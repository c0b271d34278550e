/-
# The canonical form of a document

Reading a document leniently and writing it again gives its canonical form.  The content hash is
the SHA-256 digest of the canonical form, so that documents that differ in layout only have the
same hash.
-/
import Jenkinsfile.Digest.Sha256
import Jenkinsfile.Parse
import Jenkinsfile.Render
import Jenkinsfile.Text.Utf8

namespace Jenkinsfile

/-- A document as it would be written with this unit of indentation. -/
def normalize (t indent : Text) : Text := render (parse t).pipeline indent

/-- The digest of a text. -/
def digestOf (t : Text) : Text := "sha256:".toList ++ Sha256.hexDigest (Utf8.encode t)

/-- The digest of the canonical form of a document. -/
def contentHash (t : Text) : Text := digestOf (normalize t defaultIndent)

end Jenkinsfile
