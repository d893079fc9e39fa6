import Emcache.Basic
import Emcache.PyLib
import Emcache.Validation
import Emcache.Pipeline.Builder
import Emcache.Pipeline.Grammar
import Emcache.Client.Connection
import Emcache.Client.Stats
import Emcache.Pipeline.Execute
import Emcache.Pipeline.Session
import Emcache.Client.Facade
import Emcache.Client.Results
import Emcache.Client.Lifecycle
import Emcache.Client.FanOut
