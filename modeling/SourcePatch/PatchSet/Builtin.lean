import SourcePatch.PatchSet.Basic

/-!
# Built-in patch sets

The sets that are used where no other is given.
-/

namespace SourcePatch.Builtin

/-- A text of several lines, all of them ended. -/
def lines (ls : List String) : String := String.join (ls.map (· ++ "\n"))

def lineageHardware : PatchSet where
  metadata := {
    name := "lineage-hardware"
    description := some "Stub out LineageHardwareManager in InputMethodManagerService"
    rootMarker := some "frameworks/base" }
  patches := [
    {
      id := "imms-lineage-hardware"
      file := "frameworks/base/services/core/java/com/android/server/inputmethod/"
        ++ "InputMethodManagerService.java"
      description := some
        "Drop the LineageHardwareManager field and treat every touch feature as unsupported"
      operation := .transform [
        ⟨"import",
          .regex ("import "
            ++ "com\\.android\\.internal\\.lineage\\.hardware\\.LineageHardwareManager;\\n"),
          ""⟩,
        ⟨"field", .regex "\\s*private LineageHardwareManager mLineageHardware;\\n", "\n"⟩,
        ⟨"init",
          .regex "\\s*mLineageHardware = LineageHardwareManager\\.getInstance\\(mContext\\);\\n",
          "\n"⟩,
        ⟨"polling-rate-supported",
          .regex ("mLineageHardware\\.isSupported\\(\\s*LineageHardwareManager\\.FEATURE_HIGH_"
            ++ "TOUCH_POLLING_RATE\\)"),
          "false"⟩,
        ⟨"sensitivity-supported",
          .regex ("mLineageHardware\\.isSupported\\(\\s*LineageHardwareManager\\.FEATURE_HIGH_"
            ++ "TOUCH_SENSITIVITY\\)"),
          "false"⟩,
        ⟨"hovering-supported",
          .regex ("mLineageHardware\\.isSupported\\(LineageHardwareManager\\.FEATURE_TOUCH_"
            ++ "HOVERING\\)"),
          "false"⟩,
        ⟨"polling-rate-set",
          .literal ("mLineageHardware.set(LineageHardwareManager.FEATURE_HIGH_TOUCH_POLLING_"
            ++ "RATE, "
            ++ "enabled);"),
          "// LineageOS touch polling disabled"⟩,
        ⟨"sensitivity-set",
          .literal ("mLineageHardware.set(LineageHardwareManager.FEATURE_HIGH_TOUCH_SENSITIVITY, "
            ++ "enabled);"),
          "// LineageOS touch sensitivity disabled"⟩,
        ⟨"hovering-set",
          .literal "mLineageHardware.set(LineageHardwareManager.FEATURE_TOUCH_HOVERING, enabled);",
          "// LineageOS touch hovering disabled"⟩]
        (some "// LineageOS touch") }]

def senseBiometrics : PatchSet where
  metadata := {
    name := "sense-biometrics"
    description := some
      "Remove ParanoidSense face unlock references after dropping the sense/ provider"
    rootMarker := some "frameworks/base" }
  patches := [
    {
      id := "face-service-sense"
      file := "frameworks/base/services/core/java/com/android/server/biometrics/sensors/face/"
        ++ "FaceService.java"
      description := none
      operation := .transform [
        ⟨"import-provider",
          .regex ("import "
            ++ "com\\.android\\.server\\.biometrics\\.sensors\\.face\\.sense\\."
            ++ "SenseProvider;\\n"),
          ""⟩,
        ⟨"import-utils",
          .regex ("import "
            ++ "com\\.android\\.server\\.biometrics\\.sensors\\.face\\.sense\\."
            ++ "SenseUtils;\\n"),
          ""⟩,
        ⟨"can-use-provider", .literal "SenseUtils.canUseProvider()", "false"⟩,
        ⟨"add-providers",
          .literal "providers.addAll(getSenseProviders());",
          "// Sense provider disabled"⟩,
        ⟨"get-sense-providers",
          .block "private List<ServiceProvider> getSenseProviders() \x7b" 8,
          ""⟩]
        (some "// Sense provider disabled") },
    {
      id := "auth-service-sense"
      file := "frameworks/base/services/core/java/com/android/server/biometrics/AuthService.java"
      description := none
      operation := .transform [
        ⟨"import-utils",
          .regex ("import "
            ++ "com\\.android\\.server\\.biometrics\\.sensors\\.face\\.sense\\."
            ++ "SenseUtils;\\n"),
          ""⟩,
        ⟨"can-use-provider",
          .literal "SenseUtils.canUseProvider()",
          "false /* Sense provider disabled */"⟩]
        (some "/* Sense provider disabled */") }]

def miuiCamera : PatchSet where
  metadata := {
    name := "miui-camera"
    description := some
      "Provide the miui.process.ProcessManager stub the MIUI Camera app links against"
    rootMarker := some "device/xiaomi/xaga" }
  patches := [
    {
      id := "process-manager-stub"
      file := "device/xiaomi/xaga/miuiframework/core/java/miui/process/ProcessManager.java"
      description := some "Stub miui.process.ProcessManager to prevent ClassNotFoundException"
      operation := .author (lines [
        "package miui.process;",
        "",
        "import java.util.List;",
        "import android.util.Log;",
        "",
        "/**",
        " * Stub implementation of miui.process.ProcessManager.",
        " * Required by MIUI Camera app to prevent ClassNotFoundException.",
        " */",
        "public class ProcessManager \x7b",
        "    private static final String TAG = \"ProcessManagerStub\";",
        "",
        "    public static final int AI_MAX_ADJ = 0;",
        "    public static final int AI_MAX_PROTECT_TIME = 0;",
        "",
        "    public static boolean isLockedApplication(String packageName, int userId) \x7b",
        "        Log.d(TAG, \"isLockedApplication called for \" + packageName);",
        "        return false;",
        "    \x7d",
        "",
        "    public static void adjBoost(String processName, int targetAdj, long "
        ++ "timeout, int userId) \x7b",
        "        Log.d(TAG, \"adjBoost called for \" + processName + \" targetAdj=\" + "
        ++ "targetAdj);",
        "    \x7d",
        "",
        "    public static void updateCloudData(List<String> whiteList) \x7b",
        "        Log.d(TAG, \"updateCloudData called\");",
        "    \x7d",
        "",
        "    public static void registerForegroundInfoListener(IForegroundInfoListener "
        ++ "listener) \x7b",
        "        Log.d(TAG, \"registerForegroundInfoListener called\");",
        "    \x7d",
        "",
        "    public static void unregisterForegroundInfoListener(IForegroundInfoListener "
        ++ "listener) \x7b",
        "        Log.d(TAG, \"unregisterForegroundInfoListener called\");",
        "    \x7d",
        "",
        "    // Inner interface stub",
        "    public interface IForegroundInfoListener \x7b",
        "        void onForegroundInfoChanged(ForegroundInfo foregroundInfo);",
        "    \x7d",
        "",
        "    // Inner class stub",
        "    public static class ForegroundInfo \x7b",
        "        public String mForegroundPackageName;",
        "        public int mForegroundUid;",
        "    \x7d",
        "\x7d"]) },
    {
      id := "miui-framework-module"
      file := "device/xiaomi/xaga/miuiframework/Android.bp"
      description := none
      operation := .author (lines [
        "java_library \x7b",
        "    name: \"miui-framework\",",
        "    installable: true,",
        "    srcs: [\"core/java/**/*.java\"],",
        "    sdk_version: \"current\",",
        "\x7d"]) },
    {
      id := "miui-framework-package"
      file := "device/xiaomi/xaga/custom_xaga.mk"
      description := some "Ship the stub library with the product"
      operation := .appendGuarded "miui-framework"
        "\n# Added by tree-patcher\nPRODUCT_PACKAGES += miui-framework\n" }]

end SourcePatch.Builtin

namespace SourcePatch.PatchSet

/-- The built-in sets by name, in the order in which they are used. -/
def builtins : List (String × PatchSet) :=
  [("lineage-hardware", Builtin.lineageHardware), ("sense-biometrics", Builtin.senseBiometrics),
    ("miui-camera", Builtin.miuiCamera)]

def builtin? (name : String) : Option PatchSet := builtins.lookup name

end SourcePatch.PatchSet
