import OopsysAgent.Library.Rounding
import OopsysAgent.Library.Serial
import OopsysAgent.Library.Task
import OopsysAgent.Docker.Container
import OopsysAgent.Docker.StatsRange
import OopsysAgent.Events.Instants
import OopsysAgent.Domain.Events
import OopsysAgent.Domain.Runtime
import OopsysAgent.Fleet
import OopsysAgent.Forwarder.Queue
import OopsysAgent.Forwarder.Duplicates
import OopsysAgent.Forwarder.Subjects
import OopsysAgent.Gateway.Exclusive
import OopsysAgent.Gateway.Status
import OopsysAgent.Gateway.Shutdown
import OopsysAgent.Gateway.Reconnect
import OopsysAgent.Gateway.Warnings
import OopsysAgent.Agent.Drain
import OopsysAgent.Tasks.Shutdown
import OopsysAgent.Tokens.Races
import OopsysAgent.Access.Secrecy
