import Notifly.Basic
import Notifly.Store
import Notifly.Limiter
import Notifly.Webhook
import Notifly.State
import Notifly.Intake
import Notifly.Worker
import Notifly.Reaper
import Notifly.System
import Notifly.Durability
import Notifly.Idempotency
import Notifly.Delivery
import Notifly.Lifecycle
import Notifly.Admission
import Notifly.Window
import Notifly.PlainText
import Notifly.Listing
import Notifly.RateLimiter
import Notifly.Api
import Notifly.Backoff
import Notifly.Recovery
