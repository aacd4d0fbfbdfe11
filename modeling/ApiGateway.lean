import ApiGateway.Transition
import ApiGateway.Interleave
import ApiGateway.Channel
import ApiGateway.Gin
import ApiGateway.Go
import ApiGateway.Redis
import ApiGateway.Bucket
import ApiGateway.Repository
import ApiGateway.RateLimit.Limiter
import ApiGateway.RateLimit.Concurrency
import ApiGateway.RateLimit.FixedWindowTiming
import ApiGateway.RateLimit.SlidingWindowBurst
import ApiGateway.RateLimit.Remaining
import ApiGateway.RateLimit.BucketBound
import ApiGateway.Middleware.RateLimit
import ApiGateway.Middleware.RequestLogger
import ApiGateway.Middleware.Auth
import ApiGateway.Config
import ApiGateway.Service.APIKey
import ApiGateway.Service.Lifecycle
import ApiGateway.Service.Auth
import ApiGateway.Service.Accounts
import ApiGateway.Service.Analytics
import ApiGateway.HealthCheck.Checker
import ApiGateway.CircuitBreaker.Breaker
import ApiGateway.CircuitBreaker.Reference
import ApiGateway.CircuitBreaker.Concurrent
import ApiGateway.LoadBalancer
import ApiGateway.Proxy
import ApiGateway.Proxy.Handle
import ApiGateway.Server
import ApiGateway.Server.Guarantees
import ApiGateway.Handler.System
import ApiGateway.Service.AnalyticsFrame
import ApiGateway.Strconv
import ApiGateway.Handler.Analytics
import ApiGateway.Footprint
import ApiGateway.RateLimit.Isolation
import ApiGateway.RateLimit.FixedWindowCount
